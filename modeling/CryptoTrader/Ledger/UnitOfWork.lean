import CryptoTrader.Ledger.Service
import Mathlib.Data.List.Perm.Basic

/-!
# The ledger's unit of work

`LedgerUnitOfWork` of `ledger/unit_of_work.py` over the two context managers of
`LedgerDB`.  A block inside it writes through the unit's own cursor, and calls
services that open `db.cursor()` or `db.transaction()` for themselves.  On
SQLite these share the unit's connection: the end of an inner manager commits
or rolls back whatever the unit has written so far, and an inner `BEGIN` is
refused.  On Postgres they take a connection of their own, whose commit does
not wait for the unit.

What is visible is a list of the statements that have been committed.
-/

namespace CryptoTrader.UnitOfWork

variable {ω ε : Type}

/-! ## Blocks -/

/-- The context managers of `LedgerDB`. -/
inductive Manager where
  | cursor
  | transaction
  deriving DecidableEq

/-- What a service does inside a manager of its own: it writes, and may raise
after that. -/
structure Body (ω : Type) where
  writes : List ω
  raises : Bool

/-- A block of the unit, as it goes on after each thing it does.  A statement
that writes is `ω`, an event `ε`; `onError` is how the block goes on when it
catches what is raised, and `raise` when it does not. -/
inductive Block (ω ε : Type) where
  | finish
  | raise
  | write (w : ω) (next onError : Block ω ε)
  | refused (onError : Block ω ε)
  | collect (e : ε) (next : Block ω ε)
  | within (manager : Manager) (body : Body ω) (next onError : Block ω ε)

/-! ## The connection -/

/-- The unit's connection and the rows the others see.  On Postgres a refused
statement leaves the transaction failed. -/
structure Conn (ω : Type) where
  visible : List ω
  pending : Option (List ω)
  failed : Bool

namespace Conn

/-- `cur.execute`, which begins a transaction where there is none. -/
def execute (c : Conn ω) (w : ω) : Conn ω :=
  { c with pending := some (c.pending.getD [] ++ [w]) }

/-- `conn.commit()`; a failed transaction is rolled back. -/
def commit (c : Conn ω) : Conn ω :=
  { visible := if c.failed then c.visible else c.visible ++ c.pending.getD []
    pending := none
    failed := false }

/-- `conn.rollback()`. -/
def rollback (c : Conn ω) : Conn ω := { visible := c.visible, pending := none, failed := false }

/-- `cur.execute` of a statement the database refuses. -/
def refuse (b : Backend) (c : Conn ω) : Conn ω :=
  match b with
  | .sqlite => { c with pending := some (c.pending.getD []) }
  | .postgres => { c with pending := some (c.pending.getD []), failed := true }

end Conn

/-! ## Running a block -/

/-- A block under way: the connection, the statements that have been executed,
and the events that have been collected. -/
structure Progress (ω ε : Type) where
  conn : Conn ω
  performed : List ω := []
  events : List ε := []

namespace Progress

def write (s : Progress ω ε) (w : ω) : Progress ω ε :=
  { s with conn := s.conn.execute w, performed := s.performed ++ [w] }

/-- The end of a manager on the unit's connection. -/
def close (s : Progress ω ε) (raises : Bool) : Progress ω ε :=
  { s with conn := if raises then s.conn.rollback else s.conn.commit }

/-- A manager on the unit's connection. -/
def shared (s : Progress ω ε) (body : Body ω) : Progress ω ε × Bool :=
  ((body.writes.foldl write s).close body.raises, body.raises)

/-- A manager on a connection of its own. -/
def aside (s : Progress ω ε) (body : Body ω) : Progress ω ε × Bool :=
  ({ s with
      conn :=
        if body.raises then s.conn
        else { s.conn with visible := s.conn.visible ++ body.writes }
      performed := s.performed ++ body.writes }, body.raises)

/-- `with db.cursor()` and `with db.transaction()` inside the unit, and whether
they raise. -/
def within (b : Backend) (manager : Manager) (body : Body ω) (s : Progress ω ε) :
    Progress ω ε × Bool :=
  match b, manager with
  | .postgres, _ => s.aside body
  | .sqlite, .cursor => s.shared body
  | .sqlite, .transaction =>
      -- `BEGIN` inside a transaction is refused, and the manager rolls back
      if s.conn.pending.isSome then (s.close true, true) else s.shared body

end Progress

/-- The block, and whether it raises. -/
def Block.run (b : Backend) : Block ω ε → Progress ω ε → Progress ω ε × Bool
  | .finish, s => (s, false)
  | .raise, s => (s, true)
  | .write w next onError, s =>
      -- a failed transaction executes nothing
      if s.conn.failed then onError.run b s else next.run b (s.write w)
  | .refused onError, s => onError.run b { s with conn := s.conn.refuse b }
  | .collect e next, s => next.run b { s with events := s.events ++ [e] }
  | .within manager body next onError, s =>
      let after := s.within b manager body
      if after.2 then onError.run b after.1 else next.run b after.1

/-- What is left of a unit: the visible rows, what the block executed and
collected, each event that was published with the rows visible then, and
whether the `with` statement raised. -/
structure Outcome (ω ε : Type) where
  visible : List ω
  performed : List ω
  collected : List ε
  published : List (ε × List ω)
  raised : Bool

/-- `_begin`: SQLite begins at once, psycopg2 with the first statement. -/
def begin (b : Backend) (rows : List ω) : Conn ω :=
  match b with
  | .sqlite => { visible := rows, pending := some [], failed := false }
  | .postgres => { visible := rows, pending := none, failed := false }

/-- `__exit__`: `_commit` publishes the events after the commit, and a commit
that fails is rolled back and raises. -/
def leave (bus commits : Bool) (s : Progress ω ε) (raised : Bool) : Outcome ω ε :=
  let rolledBack : Outcome ω ε :=
    { visible := s.conn.rollback.visible
      performed := s.performed
      collected := s.events
      published := []
      raised := true }
  if raised then rolledBack
  else if commits then
    { visible := s.conn.commit.visible
      performed := s.performed
      collected := s.events
      published := if bus then s.events.map (fun e => (e, s.conn.commit.visible)) else []
      raised := false }
  else rolledBack

/-- `with LedgerUnitOfWork(db, event_bus=…)`. -/
def run (b : Backend) (bus commits : Bool) (rows : List ω) (block : Block ω ε) : Outcome ω ε :=
  let after := block.run b { conn := begin b rows }
  leave bus commits after.1 after.2

/-- All or nothing: a unit that raises leaves no write and publishes nothing;
one that does not leaves every write and has published each event once, when
all of them were visible. -/
def Outcome.Atomic (o : Outcome ω ε) (bus : Bool) (rows : List ω) : Prop :=
  if o.raised then o.visible = rows ∧ o.published = []
  else
    o.visible.Perm (rows ++ o.performed) ∧
      o.published = if bus then o.collected.map (fun e => (e, o.visible)) else []

/-! ## What a block does to its writes -/

/-- What is known of the writes of a block: whether a transaction has begun and
has failed, and whether a write is pending, has got out before the end, or has
got lost. -/
structure Flags where
  begun : Bool
  failed : Bool := false
  dirty : Bool := false
  spilled : Bool := false
  dropped : Bool := false

namespace Flags

def write (f : Flags) : Flags := { f with begun := true, dirty := true }

def refuse (b : Backend) (f : Flags) : Flags :=
  { f with begun := true, failed := f.failed || b = .postgres }

/-- What is pending gets out, or lost with a failed transaction. -/
def commit (f : Flags) : Flags :=
  { begun := false
    spilled := f.spilled || f.dirty && !f.failed
    dropped := f.dropped || f.dirty && f.failed }

/-- What is pending gets lost. -/
def rollback (f : Flags) : Flags :=
  { begun := false
    spilled := f.spilled
    dropped := f.dropped || f.dirty }

def close (f : Flags) (raises : Bool) : Flags := if raises then f.rollback else f.commit

def shared (f : Flags) (body : Body ω) : Flags × Bool :=
  ((if body.writes.isEmpty then f else f.write).close body.raises, body.raises)

def aside (f : Flags) (body : Body ω) : Flags × Bool :=
  ({ f with
      spilled := f.spilled || !body.writes.isEmpty && !body.raises
      dropped := f.dropped || !body.writes.isEmpty && body.raises }, body.raises)

def within (b : Backend) (manager : Manager) (body : Body ω) (f : Flags) : Flags × Bool :=
  match b, manager with
  | .postgres, _ => f.aside body
  | .sqlite, .cursor => f.shared body
  | .sqlite, .transaction => if f.begun then (f.close true, true) else f.shared body

end Flags

/-- Whether a block keeps its writes together: none has got out where it
raises, and none has got lost where it does not. -/
def Block.safe (b : Backend) (commits : Bool) : Block ω ε → Flags → Bool
  | .finish, f => if commits then !f.commit.dropped else !f.spilled
  | .raise, f => !f.spilled
  | .write _ next onError, f =>
      if f.failed then onError.safe b commits f else next.safe b commits f.write
  | .refused onError, f => onError.safe b commits (f.refuse b)
  | .collect _ next, f => next.safe b commits f
  | .within manager body next onError, f =>
      let after := f.within b manager body
      if after.2 then onError.safe b commits after.1 else next.safe b commits after.1

/-- What is known at `_begin`. -/
def Flags.start (b : Backend) : Flags := { begun := b = .sqlite }

/-- The account the flags give of a block under way: every write it executed is
out, pending or lost. -/
structure Accounts (rows : List ω) (s : Progress ω ε) (f : Flags) (out lost : List ω) : Prop where
  visible : s.conn.visible = rows ++ out
  performed : s.performed.Perm (out ++ s.conn.pending.getD [] ++ lost)
  begun : f.begun = s.conn.pending.isSome
  failed : f.failed = s.conn.failed
  dirty : f.dirty = !(s.conn.pending.getD []).isEmpty
  spilled : f.spilled = !out.isEmpty
  dropped : f.dropped = !lost.isEmpty

section Accounts

variable {b : Backend} {rows out lost : List ω} {s : Progress ω ε} {f : Flags}

theorem Accounts.start : Accounts rows ({ conn := begin b rows } : Progress ω ε) (.start b) [] [] := by
  cases b <;> constructor <;> simp [begin, Flags.start]

theorem Accounts.write (h : Accounts rows s f out lost) (w : ω) :
    Accounts rows (s.write w) f.write out lost := by
  obtain ⟨hvisible, hperformed, -, hfailed, -, hspilled, hdropped⟩ := h
  constructor
  · exact hvisible
  · have hadd := hperformed.append_right [w]
    refine hadd.trans ?_
    simp only [Progress.write, Conn.execute, Option.getD_some, List.append_assoc]
    exact (List.perm_append_comm.append_left _).append_left _
  · simp [Progress.write, Conn.execute, Flags.write]
  · exact hfailed
  · simp [Progress.write, Conn.execute, Flags.write]
  · exact hspilled
  · exact hdropped

/-- Several statements, of which the flags only see whether there are any. -/
theorem Accounts.writeAll (h : Accounts rows s f out lost) (writes : List ω) :
    Accounts rows (writes.foldl Progress.write s) (if writes.isEmpty then f else f.write) out lost := by
  induction writes generalizing s f with
  | nil => exact h
  | cons w rest ih =>
      have hrest := ih (h.write w)
      have hsame : (if rest.isEmpty then f.write else f.write.write) = f.write := by
        split <;> rfl
      rw [hsame] at hrest
      exact hrest

theorem Accounts.rollback (h : Accounts rows s f out lost) :
    Accounts rows (s.close true) f.rollback out (s.conn.pending.getD [] ++ lost) := by
  obtain ⟨hvisible, hperformed, -, -, hdirty, hspilled, hdropped⟩ := h
  constructor
  · exact hvisible
  · simpa [Progress.close, Conn.rollback] using hperformed
  · rfl
  · rfl
  · rfl
  · exact hspilled
  · cases hpending : s.conn.pending.getD [] <;> simp [Flags.rollback, hdirty, hdropped, hpending]

theorem Accounts.commit (h : Accounts rows s f out lost) :
    Accounts rows (s.close false) f.commit
      (if f.failed then out else out ++ s.conn.pending.getD [])
      (if f.failed then s.conn.pending.getD [] ++ lost else lost) := by
  obtain ⟨hvisible, hperformed, -, hfailed, hdirty, hspilled, hdropped⟩ := h
  cases hcase : s.conn.failed with
  | false =>
      rw [hcase] at hfailed
      constructor
      · simp [Progress.close, Conn.commit, hcase, hfailed, hvisible]
      · simpa [Progress.close, Conn.commit, hfailed] using hperformed
      · rfl
      · rfl
      · rfl
      · cases hpending : s.conn.pending.getD [] <;>
          simp [Flags.commit, hdirty, hspilled, hfailed, hpending]
      · simp [Flags.commit, hdropped, hfailed]
  | true =>
      rw [hcase] at hfailed
      constructor
      · simp [Progress.close, Conn.commit, hcase, hfailed, hvisible]
      · simpa [Progress.close, Conn.commit, hfailed] using hperformed
      · rfl
      · rfl
      · rfl
      · simp [Flags.commit, hspilled, hfailed]
      · cases hpending : s.conn.pending.getD [] <;>
          simp [Flags.commit, hdirty, hdropped, hfailed, hpending]

theorem Accounts.refuse (h : Accounts rows s f out lost) (b : Backend) :
    Accounts rows { s with conn := s.conn.refuse b } (f.refuse b) out lost := by
  obtain ⟨hvisible, hperformed, -, hfailed, hdirty, hspilled, hdropped⟩ := h
  cases b <;> constructor <;> simp_all [Conn.refuse, Flags.refuse]

/-- An inner manager on the unit's connection. -/
theorem Accounts.shared (h : Accounts rows s f out lost) (body : Body ω) :
    ∃ out' lost', Accounts rows (s.shared body).1 (f.shared body).1 out' lost' := by
  have hwritten := h.writeAll body.writes
  unfold Progress.shared Flags.shared
  cases body.raises with
  | true => exact ⟨_, _, hwritten.rollback⟩
  | false => exact ⟨_, _, hwritten.commit⟩

/-- An inner manager on a connection of its own. -/
theorem Accounts.aside (h : Accounts rows s f out lost) (body : Body ω) :
    ∃ out' lost', Accounts rows (s.aside body).1 (f.aside body).1 out' lost' := by
  obtain ⟨hvisible, hperformed, hbegun, hfailed, hdirty, hspilled, hdropped⟩ := h
  have hadd := hperformed.append_right body.writes
  cases hraises : body.raises with
  | true =>
      refine ⟨out, lost ++ body.writes, ?_, ?_, ?_, ?_, ?_, ?_, ?_⟩
      · simpa [Progress.aside, hraises] using hvisible
      · simpa [Progress.aside, hraises] using hadd
      · simpa [Progress.aside, Flags.aside, hraises] using hbegun
      · simpa [Progress.aside, Flags.aside, hraises] using hfailed
      · simpa [Progress.aside, Flags.aside, hraises] using hdirty
      · simpa [Flags.aside, hraises] using hspilled
      · cases lost <;> simp [Flags.aside, hraises, hdropped]
  | false =>
      refine ⟨out ++ body.writes, lost, ?_, ?_, ?_, ?_, ?_, ?_, ?_⟩
      · simp [Progress.aside, hraises, hvisible]
      · have hswap : (s.conn.pending.getD [] ++ lost ++ body.writes).Perm
            (body.writes ++ (s.conn.pending.getD [] ++ lost)) := List.perm_append_comm
        refine hadd.trans ?_
        simpa [Progress.aside, hraises] using hswap.append_left out
      · simpa [Progress.aside, Flags.aside, hraises] using hbegun
      · simpa [Progress.aside, Flags.aside, hraises] using hfailed
      · simpa [Progress.aside, Flags.aside, hraises] using hdirty
      · cases out <;> simp [Flags.aside, hraises, hspilled]
      · simpa [Flags.aside, hraises] using hdropped

/-- An inner manager. -/
theorem Accounts.within (h : Accounts rows s f out lost) (b : Backend) (manager : Manager)
    (body : Body ω) :
    (s.within b manager body).2 = (f.within b manager body).2 ∧
      ∃ out' lost', Accounts rows (s.within b manager body).1 (f.within b manager body).1 out' lost' := by
  unfold Progress.within Flags.within
  cases b with
  | postgres => exact ⟨rfl, h.aside body⟩
  | sqlite =>
      cases manager with
      | cursor => exact ⟨rfl, h.shared body⟩
      | transaction =>
          rw [← h.begun]
          cases hbegun : f.begun with
          | true => exact ⟨rfl, _, _, h.rollback⟩
          | false => exact ⟨rfl, h.shared body⟩

end Accounts

/-! ## The unit -/

section Unit

variable {b : Backend} {bus commits : Bool} {rows out lost : List ω} {s : Progress ω ε} {f : Flags}

/-- What is out is all there is, exactly if nothing has got lost. -/
theorem perm_iff_of_perm_append {performed : List ω} (h : performed.Perm (out ++ lost)) :
    out.Perm performed ↔ lost = [] := by
  constructor
  · intro hall
    have hlength := hall.length_eq
    rw [h.length_eq, List.length_append] at hlength
    exact List.eq_nil_of_length_eq_zero (by omega)
  · rintro rfl
    rw [List.append_nil] at h
    exact h.symm

theorem Accounts.atomic_raised (h : Accounts rows s f out lost) :
    (leave bus commits s true).Atomic bus rows ↔ f.spilled = false := by
  have hvisible := h.visible
  rw [h.spilled]
  cases out <;> simp [leave, Outcome.Atomic, Conn.rollback, hvisible]

theorem Accounts.atomic_finished (h : Accounts rows s f out lost) :
    (leave bus commits s false).Atomic bus rows ↔
      (if commits then !f.commit.dropped else !f.spilled) = true := by
  cases commits with
  | false =>
      have hraised : (leave bus false s true).Atomic bus rows ↔ f.spilled = false := h.atomic_raised
      simpa [leave] using hraised
  | true =>
      obtain ⟨hvisible, hperformed, -, -, -, -, hdropped⟩ := h.commit
      have hcommitted : (s.close false).conn = s.conn.commit := rfl
      rw [hcommitted] at hvisible hperformed
      simp only [leave, Outcome.Atomic, hvisible, hdropped, Bool.false_eq_true, if_false, if_true,
        and_true, Bool.not_not, List.isEmpty_iff]
      have hnone : s.conn.commit.pending = none := rfl
      rw [hnone, Option.getD_none, List.append_nil] at hperformed
      rw [List.perm_append_left_iff]
      exact perm_iff_of_perm_append hperformed

/-- What is left of a block under way. -/
theorem Accounts.atomic_iff_safe (block : Block ω ε) (h : Accounts rows s f out lost) :
    (leave bus commits (block.run b s).1 (block.run b s).2).Atomic bus rows ↔
      block.safe b commits f = true := by
  induction block generalizing s f out lost with
  | finish => exact h.atomic_finished
  | raise => simpa [Block.run, Block.safe] using h.atomic_raised
  | write w next onError ihnext ihonError =>
      simp only [Block.run, Block.safe, h.failed]
      by_cases hfailed : s.conn.failed
      · simpa [hfailed] using ihonError h
      · simpa [hfailed] using ihnext (h.write w)
  | refused onError ih => exact ih (h.refuse b)
  | collect e next ih => exact ih ⟨h.visible, h.performed, h.begun, h.failed, h.dirty, h.spilled, h.dropped⟩
  | «within» manager body next onError ihnext ihonError =>
      obtain ⟨hraises, out', lost', hafter⟩ := h.within b manager body
      simp only [Block.run, Block.safe, hraises]
      by_cases hcase : (f.within b manager body).2
      · simpa [hcase] using ihonError hafter
      · simpa [hcase] using ihnext hafter

/-- **Atomicity.**  A unit keeps a block together exactly if the block is safe
on its backend. -/
theorem atomic_iff (b : Backend) (bus commits : Bool) (rows : List ω) (block : Block ω ε) :
    (run b bus commits rows block).Atomic bus rows ↔ block.safe b commits (.start b) = true :=
  Accounts.start.atomic_iff_safe block

/-- A block that opens no manager of its own and catches no refused statement
is kept together on either backend. -/
def Block.Plain : Block ω ε → Prop
  | .finish | .raise => True
  | .write _ next _ => next.Plain
  | .refused onError => onError = .raise
  | .collect _ next => next.Plain
  | .within _ _ _ _ => False

theorem Block.Plain.safe {block : Block ω ε} (h : block.Plain) (hfailed : f.failed = false)
    (hspilled : f.spilled = false) (hdropped : f.dropped = false) :
    block.safe b commits f = true := by
  induction block generalizing f with
  | finish => simp [Block.safe, Flags.commit, hfailed, hspilled, hdropped]
  | raise => simp [Block.safe, hspilled]
  | write w next onError ihnext _ =>
      simp only [Block.safe, hfailed]
      exact ihnext h hfailed hspilled hdropped
  | refused onError _ =>
      obtain rfl : onError = .raise := h
      simp [Block.safe, Flags.refuse, hspilled]
  | collect e next ih => exact ih h hfailed hspilled hdropped
  | «within» manager body next onError _ _ => exact h.elim

/-- **A unit that keeps to its own cursor is atomic.** -/
theorem atomic_of_plain (b : Backend) (bus commits : Bool) (rows : List ω) {block : Block ω ε}
    (h : block.Plain) : (run b bus commits rows block).Atomic bus rows :=
  (Accounts.start.atomic_iff_safe block).mpr (h.safe rfl rfl rfl)

theorem demoRefused_atomic :
    (run (ω := String) (ε := String) .sqlite true true []
      (.write "INSERT INTO wallet_snapshots_v2" (.refused .raise) .raise)).Atomic true [] :=
  atomic_of_plain .sqlite true true [] rfl

end Unit

/-! ## A service call that is not undone -/

/-- The unit inserts a wallet snapshot, `PositionEngine` updates a position with
a cursor of its own, and the block raises. -/
def demoBlock : Block String String :=
  .write "INSERT INTO wallet_snapshots_v2"
    (.within .cursor ⟨["UPDATE positions_v2"], false⟩
      (.collect "TradeSettledEvent" .raise) .raise) .raise

/-- On both backends the update stays; on SQLite the snapshot as well. -/
theorem demoBlock_not_atomic :
    ¬ (run .sqlite true true [] demoBlock).Atomic true [] ∧
      ¬ (run .postgres true true [] demoBlock).Atomic true [] := by
  constructor
  · intro h
    exact absurd h.1 (by decide)
  · intro h
    exact absurd h.1 (by decide)

end CryptoTrader.UnitOfWork
