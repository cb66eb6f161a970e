import Mathlib.Data.List.Pairwise
import CryptoTrader.Lib.Run
import CryptoTrader.Ledger.Projection

/-!
# Live positions

The guard of `open_position` and all queries look for the status `open`, and a
partial reduction leaves `reducing`.  As long as no row is reducing, the rows
of positive quantity are the open ones, and there is one at most for a user, a
venue and a symbol.
-/

namespace CryptoTrader

open CryptoTrader.Lib

/-! ## Rows -/

/-- The positions of one user, venue and symbol. -/
def LedgerPosition.SameKey (pos pos' : LedgerPosition) : Prop :=
  pos.userId = pos'.userId ∧ pos.venue = pos'.venue ∧ pos.symbol = pos'.symbol

theorem LedgerPosition.SameKey.symm {pos pos' : LedgerPosition} (h : pos.SameKey pos') :
    pos'.SameKey pos := ⟨h.1.symm, h.2.1.symm, h.2.2.symm⟩

/-- The parts of a row that are stored as they are. -/
structure LedgerPosition.StoredAs (pos row : LedgerPosition) (b : Backend) : Prop where
  uid : row.positionUid = pos.positionUid
  key : row.SameKey pos
  status : row.status = pos.status
  qty : b.column pos.qty = .ok row.qty
  accepted : b.acceptsStatus pos.status

theorem except_bind_eq_ok {ε α β : Type} {x : Except ε α} {f : α → Except ε β} {y : β}
    (h : x >>= f = .ok y) : ∃ a, x = .ok a ∧ f a = .ok y := by
  cases x with
  | ok a => exact ⟨a, rfl, h⟩
  | error e => cases h

theorem Backend.positionRow_storedAs {b : Backend} {pos row : LedgerPosition}
    (h : b.positionRow pos = .ok row) : pos.StoredAs row b := by
  unfold Backend.positionRow at h
  obtain ⟨qty, hqty, h⟩ := except_bind_eq_ok h
  iterate 14 obtain ⟨_, -, h⟩ := except_bind_eq_ok h
  split at h
  · cases h
  · next haccepts =>
      cases h
      exact ⟨rfl, ⟨rfl, rfl, rfl⟩, rfl, hqty, not_not.mp haccepts⟩

/-! ## One call -/

/-- A step of the table: one more open position where there was none, or a row
replaced by one of the same position, closed or of the same status. -/
inductive PositionDb.Change (rows : PositionDb) : PositionDb → Prop
  | same : Change rows rows
  | insert {row : LedgerPosition} (hfresh : ∀ r ∈ rows, r.positionUid ≠ row.positionUid)
      (hopened : row.status = .opened)
      (halone : ∀ r ∈ rows, r.status = .opened → ¬ r.SameKey row) : Change rows (rows ++ [row])
  | replace {old row : LedgerPosition} (hload : rows.loadByUid row.positionUid = some old)
      (hkey : row.SameKey old) (hstatus : row.status = old.status ∨ row.status = .closed)
      (hqty : row.status = .closed → (old.status = .closed → old.qty = 0) → row.qty = 0) :
      Change rows (rows.map (fun r => if r.positionUid = row.positionUid then row else r))

/-- The call does not store a position that is reduced in part: SQLite would,
Postgres refuses the status. -/
def PositionOp.Whole (b : Backend) (rows : PositionDb) : PositionOp → Prop
  | .reducePosition uid qtyDelta _ _ => b = .sqlite →
      ∀ pos, rows.loadByUid uid = some pos → pos.status ≠ .closed → pos.qty ≤ qtyDelta
  | _ => True

instance (b : Backend) (rows : PositionDb) : (op : PositionOp) → Decidable (op.Whole b rows)
  | .reducePosition uid qtyDelta _ _ => inferInstanceAs (Decidable (b = .sqlite →
      ∀ pos, rows.loadByUid uid = some pos → pos.status ≠ .closed → pos.qty ≤ qtyDelta))
  | .openPosition .. | .addToPosition .. | .closePosition .. | .updateSlTp .. | .accrueFee ..
  | .accrueFunding .. => isTrue trivial

section Calls

variable {b : Backend} {engine : PositionEngine} {rows : PositionDb} {pos old : LedgerPosition}

theorem Backend.column_eq_zero {y : Decimal} (h : b.column 0 = .ok y) : y = 0 :=
  Backend.stored_zero.column h

theorem updatePosition_change (hload : rows.loadByUid pos.positionUid = some old)
    (hkey : pos.SameKey old) (hstatus : pos.status = old.status ∨ pos.status = .closed)
    (hqty : pos.status = .closed → (old.status = .closed → old.qty = 0) → pos.qty = 0) :
    wp (updatePosition b pos) (fun _ rows' => rows.Change rows')
      (fun _ rows' => rows.Change rows') rows := by
  unfold updatePosition
  rw [wp_bind, wp_ofExcept]
  refine ⟨fun row hrow => ?_, fun _ _ => .same⟩
  have hstored := Backend.positionRow_storedAs hrow
  rw [wp_modify, ← hstored.uid]
  refine .replace (?_ : _ = some old) ?_ ?_ ?_
  · rw [hstored.uid]
    exact hload
  · obtain ⟨huser, hvenue, hsymbol⟩ := hstored.key
    exact ⟨huser.trans hkey.1, hvenue.trans hkey.2.1, hsymbol.trans hkey.2.2⟩
  · rw [hstored.status]
    exact hstatus
  · intro hclosed hold
    rw [hstored.status] at hclosed
    have hstoredQty := hstored.qty
    rw [hqty hclosed hold] at hstoredQty
    exact Backend.column_eq_zero hstoredQty

theorem loadPosition_wp {uid : String} {Q : LedgerPosition → PositionDb → Prop}
    {E : PyErr → PositionDb → Prop} (hfound : ∀ pos, rows.loadByUid uid = some pos → Q pos rows)
    (hmissing : ∀ e, E e rows) : wp (loadPosition uid) Q E rows := by
  unfold loadPosition
  rw [wp_bind, wp_get]
  cases hload : rows.loadByUid uid with
  | none => exact hmissing _
  | some pos => exact hfound pos hload

theorem PositionDb.uid_of_load {uid : String} (h : rows.loadByUid uid = some pos) :
    pos.positionUid = uid := by
  have hfound := List.find?_some h
  simpa using hfound

theorem LedgerPositionStatus.next?_fullClose {status status' : LedgerPositionStatus}
    (h : status.next? .fullClose = some status') : status' = .closed ∧ status ≠ .closed := by
  cases status with
  | opened =>
      cases h
      exact ⟨rfl, by decide⟩
  | reducing =>
      cases h
      exact ⟨rfl, by decide⟩
  | closed => cases h

theorem LedgerPositionStatus.next?_partialClose {status status' : LedgerPositionStatus}
    (h : status.next? .partialClose = some status') :
    status' = .reducing ∧ status ≠ .closed := by
  cases status with
  | opened =>
      cases h
      exact ⟨rfl, by decide⟩
  | reducing =>
      cases h
      exact ⟨rfl, by decide⟩
  | closed => cases h

theorem LedgerPositionStatus.next?_add {status status' : LedgerPositionStatus}
    (h : status.next? .add = some status') : status = .opened := by
  cases status with
  | opened => rfl
  | reducing => cases h
  | closed => cases h

/-- The parts of a position that a call does not touch. -/
theorem updatePosition_kept {uid : String} (hload : rows.loadByUid uid = some old)
    (huid : pos.positionUid = old.positionUid) (hkey : pos.SameKey old)
    (hstatus : pos.status = old.status) (hqty : pos.status = .closed → pos.qty = old.qty) :
    wp (updatePosition b pos) (fun _ rows' => rows.Change rows')
      (fun _ rows' => rows.Change rows') rows := by
  refine updatePosition_change ?_ hkey (Or.inl hstatus) ?_
  · rw [huid, PositionDb.uid_of_load hload]
    exact hload
  · intro hclosed hold
    rw [hqty hclosed]
    exact hold (hstatus ▸ hclosed)

/-- A reduction closes the position, or is refused, or is stored in part. -/
theorem reducePosition_change {uid : String} {qtyDelta exitPrice : Decimal} {now : ℤ}
    (hwhole : (PositionOp.reducePosition uid qtyDelta exitPrice now).Whole b rows) :
    wp (reducePosition b engine uid qtyDelta exitPrice now) (fun _ rows' => rows.Change rows')
      (fun _ rows' => rows.Change rows') rows := by
  unfold reducePosition
  rw [wp_bind]
  refine loadPosition_wp (fun pos hload => ?_) (fun _ => .same)
  have huid := PositionDb.uid_of_load hload
  cases hnext : pos.status.next? (if qtyDelta ≥ pos.qty then .fullClose else .partialClose) with
  | none => exact PositionDb.Change.same
  | some status =>
      dsimp only
      rw [wp_ite]
      refine ⟨fun _ => .same, fun hle => ?_⟩
      rw [wp_ite]
      refine ⟨fun _ => ?_, fun hpart => ?_⟩
      · rw [← huid] at hload
        exact updatePosition_change hload ⟨rfl, rfl, rfl⟩ (Or.inr rfl) (fun _ _ => rfl)
      · -- the reduction is partial: only SQLite stores it
        by_cases hfull : qtyDelta ≥ pos.qty
        · rw [if_pos hfull] at hnext
          exact absurd (LedgerPositionStatus.next?_fullClose hnext).1 hpart
        · rw [if_neg hfull] at hnext
          have hopen := (LedgerPositionStatus.next?_partialClose hnext).2
          have hpostgres : b = .postgres := by
            cases b with
            | postgres => rfl
            | sqlite => exact absurd (hwhole rfl pos hload hopen) hfull
          subst hpostgres
          unfold updatePosition
          rw [wp_bind, wp_ofExcept]
          refine ⟨fun row hrow => ?_, fun _ _ => .same⟩
          have haccepted := (Backend.positionRow_storedAs hrow).accepted
          cases haccepted

/-- What a call does to the table. -/
theorem PositionDb.change_of_run {op : PositionOp} (hwhole : op.Whole b rows) :
    wp (op.run b engine) (fun _ rows' => rows.Change rows')
      (fun _ rows' => rows.Change rows') rows := by
  cases op with
  | openPosition uid venue symbol side qty entryPrice leverage tpPrice slPrice now =>
      unfold PositionOp.run openLedgerPosition
      rw [wp_bind, wp_get]
      cases hexisting : engine.getOpenPosition rows venue symbol with
      | some existing => exact PositionDb.Change.same
      | none =>
          dsimp only
          rw [wp_ite]
          refine ⟨fun _ => .same, fun _ => ?_⟩
          unfold insertPosition
          rw [wp_bind, wp_get, wp_bind, wp_ofExcept]
          refine ⟨fun row hrow => ?_, fun _ _ => .same⟩
          have hstored := Backend.positionRow_storedAs hrow
          rw [wp_ite]
          refine ⟨fun _ => .same, fun hunique => ?_⟩
          refine .insert ?_ ?_ ?_
          · intro r hr heq
            rw [hstored.uid] at heq
            exact hunique (List.any_eq_true.mpr ⟨r, hr, decide_eq_true heq⟩)
          · rw [hstored.status]
            rfl
          · intro r hr hopened hkey
            obtain ⟨huser, hvenue, hsymbol⟩ := hstored.key
            have hmem : r ∈ (rows.filter (fun r => r.userId = engine.userId ∧ r.venue = venue ∧
                r.symbol = symbol ∧ r.status = .opened)).insertionSort
                (fun r r' => r'.openedAt ≤ r.openedAt) := by
              rw [List.mem_insertionSort, List.mem_filter]
              exact ⟨hr, decide_eq_true ⟨hkey.1.trans huser, hkey.2.1.trans hvenue,
                hkey.2.2.trans hsymbol, hopened⟩⟩
            rw [List.head?_eq_none_iff.mp hexisting] at hmem
            cases hmem
  | addToPosition uid qtyDelta fillPrice now =>
      unfold PositionOp.run addToPosition
      rw [wp_bind]
      refine loadPosition_wp (fun pos hload => ?_) (fun _ => .same)
      cases hnext : pos.status.next? .add with
      | none => exact PositionDb.Change.same
      | some status =>
          dsimp only
          rw [wp_ite]
          refine ⟨fun _ => .same, fun _ => ?_⟩
          have hopened := LedgerPositionStatus.next?_add hnext
          refine updatePosition_kept hload rfl ⟨rfl, rfl, rfl⟩ rfl (fun hclosed => ?_)
          have hclosed : pos.status = .closed := hclosed
          rw [hopened] at hclosed
          cases hclosed
  | reducePosition uid qtyDelta exitPrice now => exact reducePosition_change hwhole
  | closePosition uid exitPrice now =>
      unfold PositionOp.run closeLedgerPosition
      rw [wp_bind]
      refine loadPosition_wp (fun pos hload => ?_) (fun _ => .same)
      refine reducePosition_change (fun _ pos' hload' _ => ?_)
      rw [hload] at hload'
      cases hload'
      exact le_refl _
  | updateSlTp uid slPrice tpPrice now =>
      unfold PositionOp.run updateSlTp
      rw [wp_bind]
      refine loadPosition_wp (fun pos hload => ?_) (fun _ => .same)
      exact updatePosition_kept hload rfl ⟨rfl, rfl, rfl⟩ rfl (fun _ => rfl)
  | accrueFee uid fee now =>
      unfold PositionOp.run accrueFee
      rw [wp_bind]
      refine loadPosition_wp (fun pos hload => ?_) (fun _ => .same)
      exact updatePosition_kept hload rfl ⟨rfl, rfl, rfl⟩ rfl (fun _ => rfl)
  | accrueFunding uid amount now =>
      unfold PositionOp.run accrueFunding
      rw [wp_bind]
      refine loadPosition_wp (fun pos hload => ?_) (fun _ => .same)
      exact updatePosition_kept hload rfl ⟨rfl, rfl, rfl⟩ rfl (fun _ => rfl)

end Calls

/-! ## The table -/

/-- What a run keeps true of the table. -/
structure PositionDb.Sound (rows : PositionDb) : Prop where
  uids : rows.Pairwise (fun r r' => r.positionUid ≠ r'.positionUid)
  alone : rows.Pairwise (fun r r' => r.status = .opened → r'.status = .opened → ¬ r.SameKey r')
  settled : ∀ r ∈ rows, r.status = .opened ∨ (r.status = .closed ∧ r.qty = 0)

section Sound

variable {rows rows' : PositionDb} {r r' : LedgerPosition}

theorem PositionDb.Sound.eq_of_uid (h : rows.Sound) (hr : r ∈ rows) (hr' : r' ∈ rows)
    (heq : r.positionUid = r'.positionUid) : r = r' := by
  by_contra hne
  have : Std.Symm (fun r r' : LedgerPosition => r.positionUid ≠ r'.positionUid) :=
    ⟨fun _ _ hne => hne.symm⟩
  exact h.uids.forall hr hr' hne heq

theorem PositionDb.Sound.eq_of_key (h : rows.Sound) (hr : r ∈ rows) (hr' : r' ∈ rows)
    (hopened : r.status = .opened) (hopened' : r'.status = .opened) (hkey : r.SameKey r') :
    r = r' := by
  by_contra hne
  have : Std.Symm (fun r r' : LedgerPosition =>
      r.status = .opened → r'.status = .opened → ¬ r.SameKey r') :=
    ⟨fun _ _ halone hstatus hstatus' hkey => halone hstatus' hstatus hkey.symm⟩
  exact h.alone.forall hr hr' hne hopened hopened' hkey

/-- A row of positive quantity is an open one. -/
theorem PositionDb.Sound.opened (h : rows.Sound) (hr : r ∈ rows) (hqty : 0 < r.qty) :
    r.status = .opened := by
  rcases h.settled r hr with hopened | ⟨-, hzero⟩
  · exact hopened
  · rw [hzero] at hqty
    exact absurd hqty (lt_irrefl 0)

theorem PositionDb.Sound.insert {row : LedgerPosition} (h : rows.Sound)
    (hfresh : ∀ r ∈ rows, r.positionUid ≠ row.positionUid) (hopened : row.status = .opened)
    (halone : ∀ r ∈ rows, r.status = .opened → ¬ r.SameKey row) :
    PositionDb.Sound (rows ++ [row]) := by
  refine ⟨?_, ?_, ?_⟩
  · refine List.pairwise_append.mpr ⟨h.uids, List.pairwise_singleton _ _, ?_⟩
    intro r hr r' hr'
    rw [List.mem_singleton.mp hr']
    exact hfresh r hr
  · refine List.pairwise_append.mpr ⟨h.alone, List.pairwise_singleton _ _, ?_⟩
    intro r hr r' hr' hstatus _
    rw [List.mem_singleton.mp hr']
    exact halone r hr hstatus
  · intro r hr
    rcases List.mem_append.mp hr with hold | hnew
    · exact h.settled r hold
    · rw [List.mem_singleton.mp hnew]
      exact Or.inl hopened

theorem PositionDb.Sound.replace {old row : LedgerPosition} (h : rows.Sound)
    (hload : rows.loadByUid row.positionUid = some old) (hkey : row.SameKey old)
    (hstatus : row.status = old.status ∨ row.status = .closed)
    (hqty : row.status = .closed → (old.status = .closed → old.qty = 0) → row.qty = 0) :
    PositionDb.Sound (rows.map (fun r => if r.positionUid = row.positionUid then row else r)) := by
  have hmem : old ∈ rows := List.mem_of_find?_eq_some hload
  have huid : old.positionUid = row.positionUid := PositionDb.uid_of_load hload
  -- only the row that was loaded is replaced
  have hreplaced : ∀ r ∈ rows, r.positionUid = row.positionUid → r = old := fun r hr heq =>
    h.eq_of_uid hr hmem (heq.trans huid.symm)
  have hopened : ∀ r ∈ rows, (if r.positionUid = row.positionUid then row else r).status = .opened →
      r.status = .opened ∧ ∀ pos : LedgerPosition,
        (if r.positionUid = row.positionUid then row else r).SameKey pos ↔ r.SameKey pos := by
    intro r hr hstatus'
    by_cases heq : r.positionUid = row.positionUid
    · rw [if_pos heq] at hstatus'
      have hold := hreplaced r hr heq
      subst hold
      refine ⟨?_, fun pos => ?_⟩
      · rcases hstatus with hsame | hclosed
        · exact hsame.symm.trans hstatus'
        · rw [hclosed] at hstatus'
          cases hstatus'
      · rw [if_pos heq]
        unfold LedgerPosition.SameKey
        rw [hkey.1, hkey.2.1, hkey.2.2]
    · rw [if_neg heq] at hstatus' ⊢
      exact ⟨hstatus', fun _ => Iff.rfl⟩
  refine ⟨?_, ?_, ?_⟩
  · refine List.pairwise_map.mpr (h.uids.imp (fun {r r'} hne => ?_))
    have hkept : ∀ r : LedgerPosition,
        (if r.positionUid = row.positionUid then row else r).positionUid = r.positionUid := by
      intro r
      split
      · next heq => exact heq.symm
      · rfl
    rw [hkept, hkept]
    exact hne
  · refine List.pairwise_map.mpr (h.alone.imp_of_mem (fun {r r'} hr hr' halone => ?_))
    intro hstatus₁ hstatus₂ hsame
    obtain ⟨hopened₁, hkey₁⟩ := hopened r hr hstatus₁
    obtain ⟨hopened₂, hkey₂⟩ := hopened r' hr' hstatus₂
    exact halone hopened₁ hopened₂ ((hkey₂ r).mp ((hkey₁ _).mp hsame).symm).symm
  · intro r hr
    obtain ⟨r', hr', rfl⟩ := List.mem_map.mp hr
    by_cases heq : r'.positionUid = row.positionUid
    · rw [if_pos heq]
      have hold := hreplaced r' hr' heq
      subst hold
      rcases h.settled r' hr' with hopen | ⟨hclosed, hzero⟩
      · rcases hstatus with hsame | hclosed
        · exact Or.inl (hsame.trans hopen)
        · refine Or.inr ⟨hclosed, hqty hclosed (fun hcontra => ?_)⟩
          rw [hopen] at hcontra
          cases hcontra
      · have hrow : row.status = .closed := by
          rcases hstatus with hsame | hrow
          · exact hsame.trans hclosed
          · exact hrow
        exact Or.inr ⟨hrow, hqty hrow (fun _ => hzero)⟩
    · rw [if_neg heq]
      exact h.settled r' hr'

theorem PositionDb.Sound.change (h : rows.Sound) (hchange : rows.Change rows') : rows'.Sound := by
  cases hchange with
  | same => exact h
  | insert hfresh hopened halone => exact h.insert hfresh hopened halone
  | replace hload hkey hstatus hqty => exact h.replace hload hkey hstatus hqty

end Sound

/-! ## Live positions -/

/-- For each user, venue and symbol one stored position at most has a positive
quantity, and every such position is found, listed, refreshed and counted. -/
structure PositionDb.Live (rows : PositionDb) : Prop where
  single : ∀ userId venue symbol, (rows.filter (fun r => r.userId = userId ∧ r.venue = venue ∧
    r.symbol = symbol ∧ 0 < r.qty)).length ≤ 1
  found : ∀ r ∈ rows, 0 < r.qty → ∀ engine : PositionEngine, engine.userId = r.userId →
    engine.getOpenPosition rows r.venue r.symbol = some r
  listed : ∀ r ∈ rows, 0 < r.qty → ∀ engine : PositionEngine, engine.userId = r.userId →
    r ∈ engine.listOpenPositions rows none ∧ r ∈ engine.listOpenPositions rows (some r.venue)
  refreshed : ∀ r ∈ rows, 0 < r.qty → ∀ engine : PositionEngine, engine.userId = r.userId →
    ∀ (marks : Dict String Decimal) (mark : Decimal) (now : ℤ), marks.get? r.symbol = some mark →
      engine.recalculate r mark now ∈ engine.refreshMarks rows r.venue marks now
  counted : ∀ r ∈ rows, 0 < r.qty → ∀ positions : List LedgerPosition, r ∈ positions →
    r ∈ countedPositions positions

theorem mem_listOpenPositions {engine : PositionEngine} {rows : PositionDb} {r : LedgerPosition}
    (hr : r ∈ rows) (huser : engine.userId = r.userId) (hopened : r.status = .opened) :
    r ∈ engine.listOpenPositions rows none ∧ r ∈ engine.listOpenPositions rows (some r.venue) := by
  have hall : r ∈ (rows.filter (fun r => r.userId = engine.userId ∧
      r.status = .opened)).insertionSort (fun r r' => r.openedAt ≤ r'.openedAt) := by
    rw [List.mem_insertionSort, List.mem_filter]
    exact ⟨hr, decide_eq_true ⟨huser.symm, hopened⟩⟩
  refine ⟨hall, ?_⟩
  unfold PositionEngine.listOpenPositions
  by_cases hvenue : r.venue = ""
  · rw [Option.filter_some, if_neg (by simp [hvenue])]
    exact hall
  · rw [Option.filter_some, if_pos (by simp [hvenue])]
    dsimp only
    rw [List.mem_insertionSort, List.mem_filter]
    exact ⟨hr, decide_eq_true ⟨huser.symm, rfl, hopened⟩⟩

theorem PositionDb.Sound.live {rows : PositionDb} (h : rows.Sound) : rows.Live where
  single := by
    intro userId venue symbol
    have halone := h.alone.sublist (List.filter_sublist (p := fun r => decide (r.userId = userId ∧
      r.venue = venue ∧ r.symbol = symbol ∧ 0 < r.qty)))
    have hmem : ∀ r ∈ rows.filter (fun r => decide (r.userId = userId ∧ r.venue = venue ∧
        r.symbol = symbol ∧ 0 < r.qty)), r.status = .opened ∧
          r.userId = userId ∧ r.venue = venue ∧ r.symbol = symbol := by
      intro r hr
      obtain ⟨hrow, hp⟩ := List.mem_filter.mp hr
      obtain ⟨huser, hvenue, hsymbol, hqty⟩ := of_decide_eq_true hp
      exact ⟨h.opened hrow hqty, huser, hvenue, hsymbol⟩
    cases hrows : rows.filter (fun r => decide (r.userId = userId ∧ r.venue = venue ∧
        r.symbol = symbol ∧ 0 < r.qty)) with
    | nil => simp
    | cons r rest =>
        cases rest with
        | nil => simp
        | cons r' rest =>
            rw [hrows] at halone hmem
            obtain ⟨hopened, huser, hvenue, hsymbol⟩ := hmem r (by simp)
            obtain ⟨hopened', huser', hvenue', hsymbol'⟩ := hmem r' (by simp)
            have hkey : r.SameKey r' :=
              ⟨huser.trans huser'.symm, hvenue.trans hvenue'.symm, hsymbol.trans hsymbol'.symm⟩
            exact absurd hkey ((List.pairwise_cons.mp halone).1 r' (by simp) hopened hopened')
  found := by
    intro r hr hqty engine huser
    have hopened := h.opened hr hqty
    unfold PositionEngine.getOpenPosition
    have hmem : r ∈ (rows.filter (fun r' => r'.userId = engine.userId ∧ r'.venue = r.venue ∧
        r'.symbol = r.symbol ∧ r'.status = .opened)).insertionSort
          (fun r r' => r'.openedAt ≤ r.openedAt) := by
      rw [List.mem_insertionSort, List.mem_filter]
      exact ⟨hr, decide_eq_true ⟨huser.symm, rfl, rfl, hopened⟩⟩
    cases hsorted : (rows.filter (fun r' => r'.userId = engine.userId ∧ r'.venue = r.venue ∧
        r'.symbol = r.symbol ∧ r'.status = .opened)).insertionSort
          (fun r r' => r'.openedAt ≤ r.openedAt) with
    | nil =>
        rw [hsorted] at hmem
        cases hmem
    | cons first rest =>
        have hfirst : first ∈ (rows.filter (fun r' => r'.userId = engine.userId ∧
            r'.venue = r.venue ∧ r'.symbol = r.symbol ∧ r'.status = .opened)).insertionSort
              (fun r r' => r'.openedAt ≤ r.openedAt) := by
          rw [hsorted]
          simp
        rw [List.mem_insertionSort, List.mem_filter] at hfirst
        obtain ⟨hrow, hp⟩ := hfirst
        obtain ⟨huser', hvenue', hsymbol', hopened'⟩ := of_decide_eq_true hp
        have hsame := h.eq_of_key hrow hr hopened' hopened
          ⟨huser'.trans huser, hvenue', hsymbol'⟩
        rw [List.head?_cons, hsame]
  listed := fun r hr hqty engine huser => mem_listOpenPositions hr huser (h.opened hr hqty)
  refreshed := by
    intro r hr hqty engine huser marks mark now hmark
    have hlisted := (mem_listOpenPositions hr huser (h.opened hr hqty)).2
    refine List.mem_filterMap.mpr ⟨r, hlisted, ?_⟩
    rw [hmark]
    rfl
  counted := fun r hr hqty positions hmem =>
    List.mem_filter.mpr ⟨hmem, decide_eq_true (h.opened hr hqty)⟩

/-! ## Runs -/

/-- The table after a call of an engine, whether it returned or raised. -/
def PositionOp.step (b : Backend) (rows : PositionDb) (call : PositionEngine × PositionOp) :
    PositionDb := final (call.2.run b call.1) rows

/-- As long as no position is reduced in part on SQLite, the live positions are
the ones the engine finds. -/
theorem PositionDb.live_of_reaches {b : Backend} {rows : PositionDb}
    (h : Reaches (PositionOp.step b) (fun rows call => call.2.Whole b rows) [] rows) :
    rows.Live := by
  have hsound : rows.Sound := by
    induction h with
    | start => exact ⟨List.Pairwise.nil, List.Pairwise.nil, fun r hr => by cases hr⟩
    | step _ hwhole ih => exact ih.change ((wp_final _).mp (PositionDb.change_of_run hwhole))
  exact hsound.live

/-- An engine of the default user. -/
def demoEngine : PositionEngine where
  userId := "default"

/-- A position that is opened, added to and closed, and one after it. -/
def demoPositions : List (PositionEngine × PositionOp) :=
  [(demoEngine, .openPosition "a" "binance" "BTCUSDT" .long 4 50000 10 none none 1),
    (demoEngine, .addToPosition "a" 1 52000 2),
    (demoEngine, .closePosition "a" 53000 3),
    (demoEngine, .openPosition "b" "binance" "BTCUSDT" .short 1 53000 10 none none 4)]

/-- A position that is reduced in part. -/
def demoReduced : List (PositionEngine × PositionOp) :=
  [(demoEngine, .openPosition "a" "binance" "BTCUSDT" .long 4 50000 10 none none 1),
    (demoEngine, .reducePosition "a" 1 52000 2)]

theorem demoPositions_live : PositionDb.Live (demoPositions.foldl (PositionOp.step .sqlite) []) :=
  PositionDb.live_of_reaches (Reaches.start.foldl demoPositions (by decide +kernel))

/-- A position of three units that the engine does not find. -/
theorem demoReduced_not_live :
    ¬ ∀ (b : Backend) (calls : List (PositionEngine × PositionOp)),
      PositionDb.Live (calls.foldl (PositionOp.step b) []) := by
  intro h
  have hfound : (demoReduced.foldl (PositionOp.step .sqlite) []).all (fun r =>
      0 < r.qty → demoEngine.userId = r.userId →
        demoEngine.getOpenPosition (demoReduced.foldl (PositionOp.step .sqlite) []) r.venue
          r.symbol = some r) := by
    rw [List.all_eq_true]
    intro r hr
    exact decide_eq_true (fun hqty huser =>
      (h .sqlite demoReduced).found r hr hqty demoEngine huser)
  revert hfound
  decide +kernel

end CryptoTrader
