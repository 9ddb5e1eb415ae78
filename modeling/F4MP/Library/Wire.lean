import Mathlib

/-!
# Reading and writing a token stream

Little-endian integers, and a calculus for readers and writers that keep their position in a
state and may fail. A reader that `Consumes` a token list takes exactly those tokens, wherever they
stand; a writer that `Emits` a list appends exactly it. `RoundTrips` couples the two, and its rules
step a writer and a reader through one format together.
-/

namespace Wire

/-! ## Little-endian integers -/

def leBytes : Nat → Nat → List UInt8
  | 0, _ => []
  | n + 1, v => UInt8.ofNat (v % 256) :: leBytes n (v / 256)

def leValue : List UInt8 → Nat
  | [] => 0
  | b :: bs => b.toNat + 256 * leValue bs

@[simp] theorem leBytes_length (n v : Nat) : (leBytes n v).length = n := by
  induction n generalizing v with
  | zero => rfl
  | succ n ih => simp [leBytes, ih]

theorem leValue_leBytes (n v : Nat) : leValue (leBytes n v) = v % 256 ^ n := by
  induction n generalizing v with
  | zero => simp [leBytes, leValue, Nat.mod_one]
  | succ n ih =>
      have byte : (UInt8.ofNat (v % 256)).toNat = v % 256 := by simp
      rw [leBytes, leValue, ih, byte, Nat.pow_succ', Nat.mod_mul]

/-! ## Failing computations over a state -/

theorem run_bind {σ α γ : Type} (p : OptionT (StateM σ) α) (f : α → OptionT (StateM σ) γ) (s : σ) :
    (p >>= f).run s = match p.run s with
      | (some a, s') => (f a).run s'
      | (none, s') => (none, s') := by
  simp only [OptionT.run_bind, Option.elimM]
  change (StateT.bind p.run _ : StateT σ Id _) s = _
  unfold StateT.bind
  rcases p.run s with ⟨_ | a, s'⟩ <;> rfl

theorem run_bind_some {σ α γ : Type} {p : OptionT (StateM σ) α} {f : α → OptionT (StateM σ) γ}
    {s s' : σ} {a : α} (done : p.run s = (some a, s')) : (p >>= f).run s = (f a).run s' := by
  rw [run_bind, done]

theorem run_of_success {σ α : Type} {p : OptionT (StateM σ) α} {s : σ} {a : α}
    (done : (p.run s).1 = some a) : p.run s = (some a, (p.run s).2) :=
  Prod.ext done rfl

theorem run_bind_inv {σ α γ : Type} {p : OptionT (StateM σ) α} {f : α → OptionT (StateM σ) γ}
    {s t : σ} {c : γ} (done : (p >>= f).run s = (some c, t)) :
    ∃ a s', p.run s = (some a, s') ∧ (f a).run s' = (some c, t) := by
  rw [run_bind] at done
  rcases first : p.run s with ⟨_ | a, s'⟩
  · rw [first] at done
    cases done
  · rw [first] at done
    exact ⟨a, s', rfl, done⟩

/-- Run a reader a fixed number of times. -/
def readTimes {σ α : Type} (p : OptionT (StateM σ) α) : Nat → OptionT (StateM σ) (List α)
  | 0 => pure []
  | n + 1 => do
      let a ← p
      let as ← readTimes p n
      return a :: as

/-- Run a writer on each element. -/
def writeEach {σ α : Type} (w : α → OptionT (StateM σ) Unit) : List α → OptionT (StateM σ) Unit
  | [] => pure ()
  | a :: as => do
      w a
      writeEach w as

/-! ## Readers -/

/-- A state that has a list of tokens ahead of it and can move past some of them. -/
class Source (σ : Type) (β : outParam Type) where
  ahead : σ → List β
  ready : σ → Prop
  skip : σ → Nat → σ
  skip_zero : ∀ s, skip s 0 = s
  skip_skip : ∀ s m n, skip (skip s m) n = skip s (m + n)
  ahead_skip : ∀ s n, ahead (skip s n) = (ahead s).drop n
  ready_skip : ∀ s n, ready s → n ≤ (ahead s).length → ready (skip s n)

section Readers
variable {σ β α γ : Type} [Source σ β]

/-- `p` takes exactly `bs` and returns `a`. -/
def Consumes (p : OptionT (StateM σ) α) (bs : List β) (a : α) : Prop :=
  ∀ s, Source.ready s → bs <+: Source.ahead s → p.run s = (some a, Source.skip s bs.length)

theorem Consumes.pure (a : α) : Consumes (σ := σ) (pure a) [] a := by
  intro s _ _
  rw [List.length_nil, Source.skip_zero]
  rfl

theorem Consumes.bind {p : OptionT (StateM σ) α} {f : α → OptionT (StateM σ) γ} {bs cs : List β}
    {a : α} {c : γ} (first : Consumes p bs a) (rest : Consumes (f a) cs c) :
    Consumes (p >>= f) (bs ++ cs) c := by
  intro s ready front
  obtain ⟨tail, split⟩ := front
  have here := first s ready ⟨cs ++ tail, by rw [← split, List.append_assoc]⟩
  have room : bs.length ≤ (Source.ahead s).length := by
    rw [← split, List.append_assoc, List.length_append]
    omega
  have there := rest (Source.skip s bs.length) (Source.ready_skip s _ ready room) ⟨tail, by
    rw [Source.ahead_skip, ← split, List.append_assoc, List.drop_left]⟩
  rw [run_bind_some here, there, Source.skip_skip, List.length_append]

end Readers

/-! ### How far a reader gets -/

section Extents
variable {σ β α γ : Type} [Source σ β]

/-- A successful `p` has passed as many tokens as `size` reads off from those ahead of it. -/
def Spans (p : OptionT (StateM σ) α) (size : List β → Nat) : Prop :=
  ∀ s s' a, p.run s = (some a, s') →
    size (Source.ahead s) ≤ (Source.ahead s).length ∧ s' = Source.skip s (size (Source.ahead s))

/-- A successful `p` has passed `n` tokens and returns what `value` reads off from them. -/
def Yields (p : OptionT (StateM σ) α) (n : Nat) (value : List β → α) : Prop :=
  ∀ s s' a, p.run s = (some a, s') →
    n ≤ (Source.ahead s).length ∧ s' = Source.skip s n ∧ a = value (Source.ahead s)

theorem Spans.of_eq {p : OptionT (StateM σ) α} {size size' : List β → Nat} (h : Spans p size)
    (same : ∀ bs, size bs = size' bs) : Spans p size' := (funext same : size = size') ▸ h

theorem Spans.pure (a : α) : Spans (σ := σ) (pure a) fun _ => 0 := by
  intro s s' _ done
  rw [Source.skip_zero]
  exact ⟨Nat.zero_le _, (congrArg Prod.snd done).symm⟩

theorem Spans.failure (size : List β → Nat) :
    Spans (failure : OptionT (StateM σ) α) size := by
  intro s s' a done
  cases done

theorem Yields.spans {p : OptionT (StateM σ) α} {n : Nat} {value : List β → α}
    (h : Yields p n value) : Spans p fun _ => n :=
  fun s s' a done => ⟨(h s s' a done).1, (h s s' a done).2.1⟩

theorem Yields.map {p : OptionT (StateM σ) α} {n : Nat} {value : List β → α}
    (h : Yields p n value) (g : α → γ) :
    Yields (p >>= fun a => Pure.pure (g a)) n fun bs => g (value bs) := by
  intro s s' c done
  obtain ⟨a, t, first, rest⟩ := run_bind_inv done
  obtain ⟨room, moved, rfl⟩ := h s t a first
  obtain ⟨same, rfl⟩ := Prod.mk.inj rest
  exact ⟨room, moved, (Option.some.inj same).symm⟩

/-- The rest of a reader knows the value of a field that comes first. -/
theorem Yields.bind {p : OptionT (StateM σ) α} {f : α → OptionT (StateM σ) γ} {n : Nat}
    {value : List β → α} {size : α → List β → Nat} (first : Yields p n value)
    (rest : ∀ a, Spans (f a) (size a)) :
    Spans (p >>= f) fun bs => n + size (value bs) (bs.drop n) := by
  intro s s' c done
  obtain ⟨a, t, ran, finished⟩ := run_bind_inv done
  obtain ⟨room, rfl, rfl⟩ := first s t a ran
  obtain ⟨more, rfl⟩ := rest _ _ _ _ finished
  rw [Source.ahead_skip] at more ⊢
  rw [List.length_drop] at more
  exact ⟨by dsimp only; omega, Source.skip_skip s _ _⟩

theorem Spans.bind {p : OptionT (StateM σ) α} {f : α → OptionT (StateM σ) γ}
    {first rest : List β → Nat} (h : Spans p first) (then_ : ∀ a, Spans (f a) rest) :
    Spans (p >>= f) fun bs => first bs + rest (bs.drop (first bs)) := by
  intro s s' c done
  obtain ⟨a, t, ran, finished⟩ := run_bind_inv done
  obtain ⟨room, rfl⟩ := h s t a ran
  obtain ⟨more, rfl⟩ := then_ _ _ _ _ finished
  rw [Source.ahead_skip] at more ⊢
  rw [List.length_drop] at more
  exact ⟨by dsimp only; omega, Source.skip_skip s _ _⟩

/-- The extent of some records in a row. -/
def timesSize (size : List β → Nat) : Nat → List β → Nat
  | 0, _ => 0
  | n + 1, bs => size bs + timesSize size n (bs.drop (size bs))

theorem timesSize_fixed (size n : Nat) (bs : List β) : timesSize (fun _ => size) n bs = size * n := by
  induction n generalizing bs with
  | zero => rfl
  | succ n ih =>
      rw [timesSize, ih, Nat.mul_succ]
      omega

theorem Spans.readTimes {p : OptionT (StateM σ) α} {size : List β → Nat} (h : Spans p size) :
    ∀ n, Spans (Wire.readTimes p n) (timesSize size n)
  | 0 => .pure []
  | n + 1 => h.bind fun _ => ((h.readTimes n).bind fun _ => .pure _).of_eq fun _ => rfl

/-- A reader that always passes the same number of tokens. -/
class FixedSize (p : OptionT (StateM σ) α) (n : outParam Nat) : Prop where
  spans : Spans p fun _ => n

instance FixedSize.pure (a : α) : FixedSize (σ := σ) (pure a) 0 := ⟨.pure a⟩

instance FixedSize.bind (p : OptionT (StateM σ) α) (f : α → OptionT (StateM σ) γ) (m n : Nat)
    [first : FixedSize p m] [rest : ∀ a, FixedSize (f a) n] : FixedSize (p >>= f) (m + n) :=
  ⟨first.spans.bind fun a => (rest a).spans⟩

end Extents

/-! ## Writers -/

/-- A state that tokens can be appended to while there is room. -/
class Sink (σ : Type) (β : outParam Type) where
  put : σ → List β → σ
  ready : σ → Prop
  room : σ → Nat
  put_nil : ∀ s, put s [] = s
  put_put : ∀ s bs cs, put (put s bs) cs = put s (bs ++ cs)
  ready_put : ∀ s bs, ready s → bs.length ≤ room s → ready (put s bs)
  room_put : ∀ s bs, room (put s bs) = room s - bs.length

section Writers
variable {σ β α : Type} [Sink σ β]

/-- `w` can only append exactly `bs`, and does so when there is room. -/
structure Emits (w : OptionT (StateM σ) Unit) (bs : List β) : Prop where
  appends : ∀ s s', w.run s = (some (), s') → s' = Sink.put s bs
  succeeds : ∀ s, Sink.ready s → bs.length ≤ Sink.room s → (w.run s).1 = some ()

theorem Emits.run_eq {w : OptionT (StateM σ) Unit} {bs : List β} (h : Emits w bs) {s : σ}
    (ready : Sink.ready s) (fits : bs.length ≤ Sink.room s) :
    w.run s = (some (), Sink.put s bs) := by
  have done := h.succeeds s ready fits
  exact Prod.ext done (h.appends s _ (Prod.ext done rfl))

theorem Emits.pure : Emits (σ := σ) (pure ()) [] := by
  constructor
  · intro s s' done
    rw [Sink.put_nil]
    exact (congrArg Prod.snd done).symm
  · intro s _ _
    rfl

theorem Emits.bind {w : OptionT (StateM σ) Unit} {v : Unit → OptionT (StateM σ) Unit}
    {bs cs : List β} (first : Emits w bs) (rest : Emits (v ()) cs) : Emits (w >>= v) (bs ++ cs) := by
  constructor
  · intro s s' done
    rw [run_bind] at done
    rcases ran : w.run s with ⟨_ | ⟨⟩, t⟩
    · rw [ran] at done
      cases done
    · rw [ran] at done
      rw [rest.appends t s' done, first.appends s t ran, Sink.put_put]
  · intro s ready fits
    rw [List.length_append] at fits
    rw [run_bind_some (first.run_eq ready (by omega))]
    exact rest.succeeds _ (Sink.ready_put s bs ready (by omega)) (by rw [Sink.room_put]; omega)

end Writers

/-! ## Formats -/

section Formats
variable {σ τ β α γ : Type} [Sink σ β] [Source τ β]

/-- `w` writes `n` tokens from which `p` reads `a` back. -/
def RoundTrips (w : OptionT (StateM σ) Unit) (p : OptionT (StateM τ) α) (a : α) (n : Nat) : Prop :=
  ∃ bs : List β, bs.length = n ∧ Emits w bs ∧ Consumes p bs a

theorem RoundTrips.size {w : OptionT (StateM σ) Unit} {p : OptionT (StateM τ) α} {a : α} {n k : Nat}
    (h : RoundTrips w p a n) (size : n = k) : RoundTrips w p a k :=
  size ▸ h

/-- What a successful write appended is read back from any place where it stands. -/
theorem RoundTrips.read_back {w : OptionT (StateM σ) Unit} {p : OptionT (StateM τ) α} {a : α}
    {n : Nat} (h : RoundTrips w p a n) {s s' : σ} (written : w.run s = (some (), s')) :
    ∃ bs : List β, s' = Sink.put s bs ∧ bs.length = n ∧ Consumes p bs a := by
  obtain ⟨bs, len, emit, read⟩ := h
  exact ⟨bs, emit.appends s s' written, len, read⟩

theorem RoundTrips.bind {w : OptionT (StateM σ) Unit} {v : Unit → OptionT (StateM σ) Unit}
    {p : OptionT (StateM τ) α} {f : α → OptionT (StateM τ) γ} {a : α} {c : γ} {m n : Nat}
    (first : RoundTrips w p a m) (rest : RoundTrips (v ()) (f a) c n) :
    RoundTrips (w >>= v) (p >>= f) c (m + n) := by
  obtain ⟨bs, lenB, emitB, readB⟩ := first
  obtain ⟨cs, lenC, emitC, readC⟩ := rest
  exact ⟨bs ++ cs, by rw [List.length_append, lenB, lenC], emitB.bind emitC, readB.bind readC⟩

theorem RoundTrips.pure (a : α) : RoundTrips (σ := σ) (τ := τ) (pure ()) (pure a) a 0 :=
  ⟨[], rfl, .pure, .pure a⟩

theorem RoundTrips.last {w : OptionT (StateM σ) Unit} {p : OptionT (StateM τ) α}
    {f : α → OptionT (StateM τ) γ} {a : α} {c : γ} {n : Nat} (h : RoundTrips w p a n)
    (result : f a = Pure.pure c) : RoundTrips w (p >>= f) c n := by
  obtain ⟨bs, len, emit, read⟩ := h
  have assembled : Consumes (f a) [] c := result ▸ Consumes.pure c
  exact ⟨bs, len, emit, by simpa using read.bind assembled⟩

/-- A counted run of records, written one after another and read back one after another. -/
theorem RoundTrips.each {w : α → OptionT (StateM σ) Unit} {p : OptionT (StateM τ) α} {n : α → Nat}
    {as : List α} (record : ∀ a ∈ as, RoundTrips (w a) p a (n a)) :
    RoundTrips (writeEach w as) (readTimes p as.length) as (as.map n).sum := by
  induction as with
  | nil => exact .pure []
  | cons a as ih =>
      have tail := ih fun b member => record b (List.mem_cons_of_mem a member)
      exact .bind (record a List.mem_cons_self) (.last tail rfl)

end Formats

/-! ## Formats that are refused -/

section Refusals
variable {σ τ β α γ : Type} [Sink σ β] [Source τ β]

/-- `w` can only append `n` tokens. -/
def Adds (w : OptionT (StateM σ) Unit) (n : Nat) : Prop :=
  ∀ s s', w.run s = (some (), s') → ∃ bs : List β, bs.length = n ∧ s' = Sink.put s bs

theorem Adds.size {w : OptionT (StateM σ) Unit} {n k : Nat} (h : Adds w n) (size : n = k) :
    Adds w k := size ▸ h

theorem Emits.adds {w : OptionT (StateM σ) Unit} {bs : List β} (h : Emits w bs) :
    Adds w bs.length :=
  fun s s' done => ⟨bs, rfl, h.appends s s' done⟩

theorem RoundTrips.adds {w : OptionT (StateM σ) Unit} {p : OptionT (StateM τ) α} {a : α} {n : Nat}
    (h : RoundTrips w p a n) : Adds w n := by
  obtain ⟨bs, rfl, emits, _⟩ := h
  exact emits.adds

theorem Adds.bind {w : OptionT (StateM σ) Unit} {v : Unit → OptionT (StateM σ) Unit} {m n : Nat}
    (first : Adds w m) (rest : Adds (v ()) n) : Adds (w >>= v) (m + n) := by
  intro s s' done
  obtain ⟨⟨⟩, t, ran, finished⟩ := run_bind_inv done
  obtain ⟨bs, lenB, rfl⟩ := first s t ran
  obtain ⟨cs, lenC, rfl⟩ := rest _ s' finished
  exact ⟨bs ++ cs, by rw [List.length_append, lenB, lenC], Sink.put_put s bs cs⟩

theorem Adds.each {w : α → OptionT (StateM σ) Unit} {n : α → Nat} {as : List α}
    (record : ∀ a ∈ as, Adds (w a) (n a)) : Adds (writeEach w as) (as.map n).sum := by
  induction as with
  | nil => exact Emits.pure.adds
  | cons a as ih =>
      exact (record a List.mem_cons_self).bind
        (ih fun b member => record b (List.mem_cons_of_mem a member))

/-- `p` fails on `bs`, whatever comes behind them. -/
def Refuses (p : OptionT (StateM τ) α) (bs : List β) : Prop :=
  ∀ s, Source.ready s → bs <+: Source.ahead s → (p.run s).1 = none

theorem Refuses.bind {p : OptionT (StateM τ) α} {bs : List β} (first : Refuses p bs) (cs : List β)
    (f : α → OptionT (StateM τ) γ) : Refuses (p >>= f) (bs ++ cs) := by
  intro s ready front
  have here := first s ready ((List.prefix_append bs cs).trans front)
  rw [run_bind]
  rcases ran : p.run s with ⟨_ | a, s'⟩
  · rfl
  · rw [ran] at here
    cases here

theorem Consumes.refuses {p : OptionT (StateM τ) α} {f : α → OptionT (StateM τ) γ}
    {bs cs : List β} {a : α} (first : Consumes p bs a) (rest : Refuses (f a) cs) :
    Refuses (p >>= f) (bs ++ cs) := by
  intro s ready front
  obtain ⟨tail, split⟩ := front
  have here := first s ready ⟨cs ++ tail, by rw [← split, List.append_assoc]⟩
  have room : bs.length ≤ (Source.ahead s).length := by
    rw [← split, List.append_assoc, List.length_append]
    omega
  rw [run_bind_some here]
  exact rest (Source.skip s bs.length) (Source.ready_skip s _ ready room) ⟨tail, by
    rw [Source.ahead_skip, ← split, List.append_assoc, List.drop_left]⟩

/-- `w` writes `n` tokens that `p` fails on. -/
def Refused (w : OptionT (StateM σ) Unit) (p : OptionT (StateM τ) α) (n : Nat) : Prop :=
  ∃ bs : List β, bs.length = n ∧ Emits w bs ∧ Refuses p bs

theorem Refused.size {w : OptionT (StateM σ) Unit} {p : OptionT (StateM τ) α} {n k : Nat}
    (h : Refused w p n) (size : n = k) : Refused w p k :=
  size ▸ h

theorem Refused.last {w : OptionT (StateM σ) Unit} {p : OptionT (StateM τ) α} {n : Nat}
    (h : Refused w p n) (f : α → OptionT (StateM τ) γ) : Refused w (p >>= f) n := by
  obtain ⟨bs, len, emits, refuses⟩ := h
  exact ⟨bs, len, emits, by simpa using refuses.bind [] f⟩

theorem RoundTrips.refused {w : OptionT (StateM σ) Unit} {v : Unit → OptionT (StateM σ) Unit}
    {p : OptionT (StateM τ) α} {f : α → OptionT (StateM τ) γ} {a : α} {m n : Nat}
    (first : RoundTrips w p a m) (rest : Refused (v ()) (f a) n) :
    Refused (w >>= v) (p >>= f) (m + n) := by
  obtain ⟨bs, lenB, emitB, readB⟩ := first
  obtain ⟨cs, lenC, emitC, refuses⟩ := rest
  exact ⟨bs ++ cs, by rw [List.length_append, lenB, lenC], emitB.bind emitC, readB.refuses refuses⟩

theorem Refused.each {w : α → OptionT (StateM σ) Unit} {p : OptionT (StateM τ) α} {n : α → Nat}
    {as : List α} (record : ∀ a ∈ as, RoundTrips (w a) p a (n a) ∨ Refused (w a) p (n a))
    {a : α} (member : a ∈ as) (refused : Refused (w a) p (n a)) :
    Refused (writeEach w as) (readTimes p as.length) (as.map n).sum := by
  have emitted : ∀ as : List α, (∀ a ∈ as, RoundTrips (w a) p a (n a) ∨ Refused (w a) p (n a)) →
      ∃ bs : List β, bs.length = (as.map n).sum ∧ Emits (writeEach w as) bs := by
    intro as record
    induction as with
    | nil => exact ⟨[], rfl, .pure⟩
    | cons a as ih =>
        obtain ⟨cs, lenC, emitC⟩ := ih fun b member => record b (List.mem_cons_of_mem a member)
        obtain ⟨bs, lenB, emitB⟩ : ∃ bs : List β, bs.length = n a ∧ Emits (w a) bs := by
          rcases record a List.mem_cons_self with ⟨bs, len, emits, _⟩ | ⟨bs, len, emits, _⟩ <;>
            exact ⟨bs, len, emits⟩
        refine ⟨bs ++ cs, ?_, emitB.bind emitC⟩
        rw [List.length_append, lenB, lenC, List.map_cons, List.sum_cons]
  induction as with
  | nil => cases member
  | cons b as ih =>
      have later := fun c member => record c (List.mem_cons_of_mem b member)
      by_cases here : Refused (w b) p (n b)
      · obtain ⟨bs, lenB, emitB, refuses⟩ := here
        obtain ⟨cs, lenC, emitC⟩ := emitted as later
        refine ⟨bs ++ cs, ?_, emitB.bind emitC, refuses.bind cs _⟩
        rw [List.length_append, lenB, lenC, List.map_cons, List.sum_cons]
      · have reads := (record b List.mem_cons_self).resolve_right here
        have inside : a ∈ as := by
          refine (List.mem_cons.mp member).resolve_left ?_
          rintro rfl
          exact here refused
        exact reads.refused ((ih later inside).last _)

end Refusals

end Wire
