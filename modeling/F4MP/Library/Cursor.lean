import F4MP.Library.Transition
import F4MP.Library.Wire

/-!
# Cursors

A cursor moves within a limit and fails when an operation would take it further; from then on it fails
at everything. `Guarded` operations keep to that, and `Into` adds a memory that they write to: what
they leave alone there (`Spares`), and what they write if a plain reader stands for them (`Deposits`).
-/

namespace Wire
open Transition

variable {σ M V α γ : Type}

theorem run_bind_cases (p : OptionT (StateM σ) α) (f : α → OptionT (StateM σ) γ) (s : σ) :
    (∃ s', p.run s = (none, s') ∧ (p >>= f).run s = (none, s')) ∨
      ∃ a s', p.run s = (some a, s') ∧ (p >>= f).run s = (f a).run s' := by
  rcases first : p.run s with ⟨_ | a, s'⟩
  · exact .inl ⟨s', rfl, by rw [run_bind, first]⟩
  · exact .inr ⟨a, s', rfl, by rw [run_bind, first]⟩

/-! ## Operations that stay inside -/

class Cursor (σ : Type) where
  offset : σ → Nat
  limit : σ → Nat
  overflowed : σ → Bool

section Operations
variable [Cursor σ]
open Cursor

/-- The cursor stays inside, and is marked when `p` fails. -/
structure Orderly (p : OptionT (StateM σ) α) : Prop where
  limit_eq : ∀ s, limit (p.run s).2 = limit s
  inside : ∀ s, offset s ≤ limit s → offset (p.run s).2 ≤ limit s
  marked : ∀ s, (p.run s).1 = none → overflowed (p.run s).2 = true

/-- Moreover `p` fails at a marked cursor, and changes nothing there. -/
structure Guarded (p : OptionT (StateM σ) α) : Prop extends Orderly p where
  stuck : ∀ s, overflowed s = true → p.run s = (none, s)

theorem Orderly.pure (a : α) : Orderly (pure a : OptionT (StateM σ) α) :=
  ⟨fun _ => rfl, fun _ inside => inside, fun _ none => by cases none⟩

theorem Orderly.bind {p : OptionT (StateM σ) α} {f : α → OptionT (StateM σ) γ} (first : Orderly p)
    (rest : ∀ a, Orderly (f a)) : Orderly (p >>= f) := by
  refine ⟨fun s => ?_, fun s inside => ?_, fun s none => ?_⟩
  · have kept := first.limit_eq s
    rcases run_bind_cases p f s with ⟨s', failed, whole⟩ | ⟨a, s', done, whole⟩
    · rw [failed] at kept
      rwa [whole]
    · rw [done] at kept
      rw [whole, (rest a).limit_eq, kept]
  · have kept := first.limit_eq s
    have within := first.inside s inside
    rcases run_bind_cases p f s with ⟨s', failed, whole⟩ | ⟨a, s', done, whole⟩
    · rw [failed] at within
      rwa [whole]
    · rw [done] at kept within
      rw [whole, ← kept]
      exact (rest a).inside s' (kept ▸ within)
  · have marked := first.marked s
    rcases run_bind_cases p f s with ⟨s', failed, whole⟩ | ⟨a, s', done, whole⟩
    · rw [failed] at marked
      rw [whole]
      exact marked rfl
    · rw [whole] at none ⊢
      exact (rest a).marked s' none

theorem Guarded.bind {p : OptionT (StateM σ) α} {f : α → OptionT (StateM σ) γ} (first : Guarded p)
    (rest : ∀ a, Orderly (f a)) : Guarded (p >>= f) where
  toOrderly := first.toOrderly.bind rest
  stuck s marked := by rw [run_bind, first.stuck s marked]

theorem Guarded.map {p : OptionT (StateM σ) α} (first : Guarded p) (f : α → γ) :
    Guarded (do return f (← p)) := first.bind fun a => .pure (f a)

/-- A `p` that fails has not moved. -/
def Atomic (p : OptionT (StateM σ) α) : Prop :=
  ∀ s, (p.run s).1 = none → offset (p.run s).2 = offset s

theorem Atomic.map {p : OptionT (StateM σ) α} (atomic : Atomic p) (f : α → γ) :
    Atomic (do return f (← p)) := by
  intro s none
  have here := atomic s
  rcases run_bind_cases p (fun a => Pure.pure (f a)) s with
    ⟨s', failed, whole⟩ | ⟨a, s', done, whole⟩
  · rw [failed] at here
    rw [whole]
    exact here rfl
  · cases (congrArg Prod.fst whole).symm.trans none

end Operations

/-! ## Sequences of operations -/

section Sequences
variable [Cursor σ] {Op : Type} (exec : Op → OptionT (StateM σ) Unit)
open Cursor

/-- An operation is tried, whatever became of those before it. -/
def attempt (s : σ) (op : Op) : σ := ((exec op).run s).2

variable {exec} (guarded : ∀ op, Guarded (exec op)) {s : σ}
include guarded

theorem run_attempt_limit (ops : List Op) : limit (run (attempt exec) s ops) = limit s := by
  induction ops generalizing s with
  | nil => rfl
  | cons op ops ih => exact ih.trans ((guarded op).limit_eq s)

/-- No sequence of operations takes the cursor past its limit. -/
theorem run_attempt_inside (inside : offset s ≤ limit s) (ops : List Op) :
    offset (run (attempt exec) s ops) ≤ limit s := by
  induction ops generalizing s with
  | nil => exact inside
  | cons op ops ih =>
      have kept := (guarded op).limit_eq s
      have within := ih ((kept ▸ (guarded op).inside s inside : offset (attempt exec s op) ≤
        limit (attempt exec s op)))
      exact within.trans_eq kept

theorem run_attempt_stuck (marked : overflowed s = true) (ops : List Op) :
    run (attempt exec) s ops = s := by
  induction ops with
  | nil => rfl
  | cons op ops ih =>
      have same : attempt exec s op = s := by rw [attempt, (guarded op).stuck s marked]
      rw [run_cons, same, ih]

/-- Behind an operation that fails, every other one fails as well. -/
theorem run_attempt_fails {op : Op} (failed : ((exec op).run s).1 = none) (ops : List Op)
    (later : Op) : ((exec later).run (run (attempt exec) (attempt exec s op) ops)).1 = none := by
  have marked : overflowed (attempt exec s op) = true := (guarded op).marked s failed
  rw [run_attempt_stuck guarded marked, (guarded later).stuck _ marked]

end Sequences

/-! ## Readers that write to a memory -/

/-- Write a list to consecutive places. -/
def memcpy {β : Type} (dst : Nat) (src : List β) (mem : Nat → β) : Nat → β := fun place =>
  if dst ≤ place then (src[place - dst]?).getD (mem place) else mem place

theorem memcpy_of_lt {β : Type} {dst place : Nat} (before : place < dst) (src : List β)
    (mem : Nat → β) : memcpy dst src mem place = mem place := by
  rw [memcpy, if_neg (Nat.not_le.mpr before)]

theorem memcpy_of_ge {β : Type} {dst place : Nat} {src : List β}
    (beyond : dst + src.length ≤ place) (mem : Nat → β) : memcpy dst src mem place = mem place := by
  rw [memcpy, if_pos (by omega), List.getElem?_eq_none (by omega), Option.getD_none]

theorem memcpy_append {β : Type} (dst : Nat) (front back : List β) (mem : Nat → β) :
    memcpy (dst + front.length) back (memcpy dst front mem) = memcpy dst (front ++ back) mem := by
  funext place
  rcases Nat.lt_or_ge place dst with before | from_
  · rw [memcpy_of_lt (by omega), memcpy_of_lt before, memcpy_of_lt before]
  rcases Nat.lt_or_ge (place - dst) front.length with inFront | behind
  · rw [memcpy_of_lt (by omega), memcpy, if_pos from_, memcpy, if_pos from_,
      List.getElem?_append_left inFront, List.getElem?_eq_getElem inFront]
  · rw [memcpy, if_pos (by omega), memcpy_of_ge (by omega), memcpy, if_pos from_,
      List.getElem?_append_right behind, Nat.sub_sub]

/-- A reader that writes to a memory. -/
abbrev Into (σ M α : Type) := OptionT (StateM (σ × M)) α

/-- Read, and write what is read; a reader that fails writes nothing. -/
def store (p : OptionT (StateM σ) α) (put : α → M → M) : Into σ M Unit := fun s =>
  match p.run s.1 with
  | (some a, r) => (some (), (r, put a s.2))
  | (none, r) => (none, (r, s.2))

/-- Read into a variable. -/
def fetch (p : OptionT (StateM σ) α) : Into σ M α := fun s =>
  ((p.run s.1).1, ((p.run s.1).2, s.2))

def memory : Into σ M M := fun s => (some s.2, s)

def assign (f : M → M) : Into σ M Unit := fun s => (some (), (s.1, f s.2))

/-- The body for `count` numbers from `first` on. -/
def forRange (body : Nat → Into σ M Unit) (first : Nat) : (count : Nat) → Into σ M Unit
  | 0 => pure ()
  | count + 1 => do
      body first
      forRange body (first + 1) count

section Steps
variable {p : OptionT (StateM σ) α} {put : α → M → M} {s : σ × M}

theorem store_some {r : σ} {a : α} (done : p.run s.1 = (some a, r)) :
    (store p put).run s = (some (), (r, put a s.2)) := by
  change store p put s = _
  rw [store, done]

theorem store_none {r : σ} (failed : p.run s.1 = (none, r)) :
    (store p put).run s = (none, (r, s.2)) := by
  change store p put s = _
  rw [store, failed]

theorem store_cases (p : OptionT (StateM σ) α) (put : α → M → M) (s : σ × M) :
    (∃ r, p.run s.1 = (none, r) ∧ (store p put).run s = (none, (r, s.2))) ∨
      ∃ a r, p.run s.1 = (some a, r) ∧ (store p put).run s = (some (), (r, put a s.2)) := by
  rcases done : p.run s.1 with ⟨_ | a, r⟩
  · exact .inl ⟨r, rfl, store_none done⟩
  · exact .inr ⟨a, r, rfl, store_some done⟩

end Steps

/-! ### Cursors beside a memory -/

section Memory
variable [Cursor σ] {p : OptionT (StateM σ) α}

instance : Cursor (σ × M) where
  offset s := Cursor.offset s.1
  limit s := Cursor.limit s.1
  overflowed s := Cursor.overflowed s.1

theorem Orderly.assign (f : M → M) : Orderly (assign f : Into σ M Unit) :=
  ⟨fun _ => rfl, fun _ inside => inside, fun _ none => by cases none⟩

theorem Guarded.fetch (guarded : Guarded p) : Guarded (fetch p : Into σ M α) where
  limit_eq s := guarded.limit_eq s.1
  inside s := guarded.inside s.1
  marked s := guarded.marked s.1
  stuck s marked := by
    change ((p.run s.1).1, ((p.run s.1).2, s.2)) = _
    rw [guarded.stuck s.1 marked]

theorem Guarded.store (guarded : Guarded p) (put : α → M → M) : Guarded (store p put) := by
  have reader : ∀ s : σ × M, ((Wire.store p put).run s).2.1 = (p.run s.1).2 ∧
      (((Wire.store p put).run s).1 = none → (p.run s.1).1 = none) := by
    intro s
    rcases store_cases p put s with ⟨r, failed, whole⟩ | ⟨a, r, done, whole⟩
    · rw [failed, whole]
      exact ⟨rfl, fun _ => rfl⟩
    · rw [done, whole]
      exact ⟨rfl, fun none => by cases none⟩
  refine ⟨⟨fun s => ?_, fun s inside => ?_, fun s none => ?_⟩, fun s marked => ?_⟩
  · exact (congrArg Cursor.limit (reader s).1).trans (guarded.limit_eq s.1)
  · exact (congrArg Cursor.offset (reader s).1).trans_le (guarded.inside s.1 inside)
  · exact (congrArg Cursor.overflowed (reader s).1).trans (guarded.marked s.1 ((reader s).2 none))
  · exact store_none (guarded.stuck s.1 marked)

theorem Atomic.store (atomic : Atomic p) (put : α → M → M) : Atomic (store p put) := by
  intro s none
  rcases store_cases p put s with ⟨r, failed, whole⟩ | ⟨a, r, done, whole⟩
  · have here := atomic s.1
    rw [failed] at here
    rw [whole]
    exact here rfl
  · cases (congrArg Prod.fst whole).symm.trans none

end Memory

/-! ### What is left alone -/

/-- `p` does not change what `view` shows of the memory, also when it fails. -/
def Spares (view : M → V) (p : Into σ M α) : Prop := ∀ s, view (p.run s).2.2 = view s.2

section Spares
variable {view : M → V}

theorem Spares.pure (a : α) : Spares view (pure a : Into σ M α) := fun _ => rfl

theorem Spares.failure : Spares view (failure : Into σ M α) := fun _ => rfl

theorem Spares.fetch (p : OptionT (StateM σ) α) : Spares view (fetch p) := fun _ => rfl

theorem Spares.assign {f : M → M} (spares : ∀ m, view (f m) = view m) :
    Spares view (assign f : Into σ M Unit) := fun s => spares s.2

theorem Spares.bind {p : Into σ M α} {f : α → Into σ M γ} (first : Spares view p)
    (rest : ∀ a, Spares view (f a)) : Spares view (p >>= f) := by
  intro s
  have kept := first s
  rcases run_bind_cases p f s with ⟨s', failed, whole⟩ | ⟨a, s', done, whole⟩
  · rw [failed] at kept
    rwa [whole]
  · rw [done] at kept
    rw [whole, rest a, kept]

theorem Spares.store {p : OptionT (StateM σ) α} {put : α → M → M}
    (spares : ∀ r r' a, p.run r = (some a, r') → ∀ m, view (put a m) = view m) :
    Spares view (store p put) := by
  intro s
  rcases store_cases p put s with ⟨r, failed, whole⟩ | ⟨a, r, done, whole⟩
  · rw [whole]
  · rw [whole]
    exact spares s.1 r a done s.2

theorem Spares.forRange {body : Nat → Into σ M Unit} {first count : Nat}
    (spares : ∀ i, first ≤ i → i < first + count → Spares view (body i)) :
    Spares view (forRange body first count) := by
  induction count generalizing first with
  | zero => exact .pure ()
  | succ count ih =>
      refine .bind (spares first (Nat.le_refl _) (by omega)) fun _ => ih fun i from_ less => ?_
      exact spares i (by omega) (by omega)

end Spares

/-! ### What is written -/

/-- From the memory `m`, `p` does what the plain reader `q` does, and leaves the memory that `after`
makes of what `q` reads. -/
structure Deposits (p : Into σ M Unit) (q : OptionT (StateM σ) α) (m : M) (after : α → M) : Prop
  where
  done : ∀ r r' a, q.run r = (some a, r') → p.run (r, m) = (some (), (r', after a))
  fails : ∀ r r', q.run r = (none, r') → ∃ m', p.run (r, m) = (none, (r', m'))

section Deposits
variable {m : M}

theorem Deposits.pure {after : α → M} {a : α} (same : after a = m) :
    Deposits (σ := σ) (pure ()) (pure a) m after where
  done r r' b read := by
    cases read
    rw [same]
    rfl
  fails r r' read := by cases read

theorem Deposits.store (p : OptionT (StateM σ) α) (put : α → M → M) :
    Deposits (store p put) p m fun a => put a m where
  done _ _ _ read := store_some read
  fails _ _ read := ⟨m, store_none read⟩

theorem Deposits.bind {p p' : Into σ M Unit} {q : OptionT (StateM σ) α}
    {q' : α → OptionT (StateM σ) γ} {mid : α → M} {after : γ → M} (first : Deposits p q m mid)
    (rest : ∀ a, Deposits p' (q' a) (mid a) after) :
    Deposits (p >>= fun _ => p') (q >>= q') m after where
  done r r' c read := by
    obtain ⟨a, t, here, there⟩ := run_bind_inv read
    rw [run_bind_some (first.done r t a here)]
    exact (rest a).done t r' c there
  fails r r' read := by
    rcases run_bind_cases q q' r with ⟨t, failed, whole⟩ | ⟨a, t, here, whole⟩
    · obtain ⟨m', stopped⟩ := first.fails r t failed
      obtain rfl : t = r' := congrArg Prod.snd (whole.symm.trans read)
      exact ⟨m', by rw [run_bind, stopped]⟩
    · rw [whole] at read
      rw [run_bind_some (first.done r t a here)]
      exact (rest a).fails t r' read

theorem Deposits.map {p : Into σ M Unit} {q : OptionT (StateM σ) α} {mid : α → M} {after : γ → M}
    (first : Deposits p q m mid) {f : α → γ} (same : ∀ a, after (f a) = mid a) :
    Deposits p (do return f (← q)) m after where
  done r r' c read := by
    obtain ⟨a, t, here, there⟩ := run_bind_inv read
    cases there
    rw [same]
    exact first.done r _ a here
  fails r r' read := by
    rcases run_bind_cases q (fun a => Pure.pure (f a)) r with ⟨t, failed, whole⟩ | ⟨a, t, _, whole⟩
    · obtain rfl : t = r' := congrArg Prod.snd (whole.symm.trans read)
      exact first.fails r t failed
    · cases whole.symm.trans read

theorem Deposits.assign {p : Into σ M Unit} {q : OptionT (StateM σ) α} {mid after : α → M}
    {f : M → M} (first : Deposits p q m mid)
    (same : ∀ r r' a, q.run r = (some a, r') → after a = f (mid a)) :
    Deposits (p >>= fun _ => assign f) q m after where
  done r r' a read := by
    rw [run_bind_some (first.done r r' a read), same r r' a read]
    rfl
  fails r r' read := by
    obtain ⟨m', stopped⟩ := first.fails r r' read
    exact ⟨m', by rw [run_bind, stopped]⟩

theorem Deposits.fetch {p : OptionT (StateM σ) α} {f : α → Into σ M Unit}
    {g : α → OptionT (StateM σ) γ} {after : γ → M} (rest : ∀ a, Deposits (f a) (g a) m after) :
    Deposits (fetch p >>= f) (p >>= g) m after where
  done r r' c read := by
    obtain ⟨a, t, here, there⟩ := run_bind_inv read
    have fetched : (Wire.fetch p).run (r, m) = (some a, (t, m)) := by
      change ((p.run r).1, ((p.run r).2, m)) = _
      rw [here]
    rw [run_bind_some fetched]
    exact (rest a).done t r' c there
  fails r r' read := by
    have fetched : (Wire.fetch p).run (r, m) = ((p.run r).1, ((p.run r).2, m)) := rfl
    rcases run_bind_cases p g r with ⟨t, failed, whole⟩ | ⟨a, t, here, whole⟩
    · obtain rfl : t = r' := congrArg Prod.snd (whole.symm.trans read)
      rw [failed] at fetched
      exact ⟨m, by rw [run_bind, fetched]⟩
    · rw [whole] at read
      rw [here] at fetched
      rw [run_bind_some fetched]
      exact (rest a).fails t r' read

theorem Deposits.memory {f : M → Into σ M Unit} {q : OptionT (StateM σ) α} {after : α → M}
    (rest : Deposits (f m) q m after) : Deposits (memory >>= f) q m after where
  done r r' a read := by
    rw [run_bind_some (show (Wire.memory : Into σ M M).run (r, m) = (some m, (r, m)) from rfl)]
    exact rest.done r r' a read
  fails r r' read := by
    rw [run_bind_some (show (Wire.memory : Into σ M M).run (r, m) = (some m, (r, m)) from rfl)]
    exact rest.fails r r' read

theorem Deposits.ite {c : Prop} [Decidable c] {p p' : Into σ M Unit} {q q' : OptionT (StateM σ) α}
    {after : α → M} (yes : c → Deposits p q m after) (no : ¬ c → Deposits p' q' m after) :
    Deposits (if c then p else p') (if c then q else q') m after := by
  by_cases holds : c
  · rw [if_pos holds, if_pos holds]
    exact yes holds
  · rw [if_neg holds, if_neg holds]
    exact no holds

theorem Deposits.failure {after : α → M} :
    Deposits (failure : Into σ M Unit) (failure : OptionT (StateM σ) α) m after where
  done r r' a read := by cases read
  fails r r' read := by
    cases read
    exact ⟨m, rfl⟩

end Deposits

/-- What each element of a list is made to write, from place `i` on. -/
def putEach (put : Nat → α → M → M) : Nat → List α → M → M
  | _, [], m => m
  | i, a :: as, m => putEach put (i + 1) as (put i a m)

/-- A loop over places writes the list that is read. -/
theorem Deposits.forRange {body : Nat → Into σ M Unit} {q : OptionT (StateM σ) α}
    {put : Nat → α → M → M} (each : ∀ i m, Deposits (body i) q m fun a => put i a m)
    (first count : Nat) (m : M) :
    Deposits (forRange body first count) (readTimes q count) m fun as => putEach put first as m := by
  induction count generalizing first m with
  | zero => exact .pure rfl
  | succ count ih =>
      exact (each first m).bind fun a => (ih (first + 1) (put first a m)).map fun _ => rfl

end Wire
