import F4MP.Library.Search

/-!
# Reading a text line by line

C's `fgets` over lists: a text read through a buffer, one line or one full buffer with each turn. The
trimming of a line, and numbers with what stands behind them.
-/

namespace Lines
open Search

/-! ## The buffer -/

section Buffer
variable {α : Type} [DecidableEq α]

/-- What `fgets` takes into a buffer of `cap`: up to a newline, which it keeps. -/
def fgets (nl : α) (cap : Nat) (file : List α) : List α :=
  let room := file.take (cap - 1)
  room.take ((room.takeWhile (· ≠ nl)).length + 1)

/-- The buffers that `turns` calls fill. -/
def fgetsLoop (nl : α) (cap : Nat) : Nat → List α → List (List α)
  | 0, _ => []
  | turns + 1, file =>
      if file = [] then []
      else
        let line := fgets nl cap file
        line :: fgetsLoop nl cap turns (file.drop line.length)

/-- The buffers until `fgets` is at the end of the file. A turn takes a character at least. -/
def fgetsLines (nl : α) (cap : Nat) (file : List α) : List (List α) :=
  fgetsLoop nl cap file.length file

variable {nl : α} {cap : Nat} {file line rest : List α}

theorem fgets_pos (nl : α) (room : 2 ≤ cap) (more : file ≠ []) :
    0 < (fgets nl cap file).length := by
  have taken : 0 < (file.take (cap - 1)).length := by
    rw [List.length_take]
    have := List.length_pos_iff.mpr more
    omega
  rw [fgets, List.length_take]
  omega

theorem fgetsLoop_enough (room : 2 ≤ cap) :
    ∀ (turns : Nat) (file : List α), file.length ≤ turns →
      fgetsLoop nl cap turns file = fgetsLines nl cap file := by
  have same : ∀ (turns turns' : Nat) (file : List α), file.length ≤ turns → file.length ≤ turns' →
      fgetsLoop nl cap turns file = fgetsLoop nl cap turns' file := by
    intro turns
    induction turns with
    | zero =>
        intro turns' file short short'
        obtain rfl := List.length_eq_zero_iff.mp (Nat.le_zero.mp short)
        cases turns' <;> rfl
    | succ turns ih =>
        intro turns' file short short'
        cases turns' with
        | zero =>
            obtain rfl := List.length_eq_zero_iff.mp (Nat.le_zero.mp short')
            rfl
        | succ turns' =>
            by_cases more : file = []
            · subst more
              rfl
            · have some_ := fgets_pos nl room more
              have long := List.length_pos_iff.mpr more
              have less : (file.drop (fgets nl cap file).length).length < file.length := by
                rw [List.length_drop]
                omega
              simp only [fgetsLoop, if_neg more]
              rw [ih turns' _ (by omega) (by omega)]
  exact fun turns file short => same _ _ _ short le_rfl

/-- A short line is read as it stands. -/
theorem fgets_line (plain : nl ∉ line) (short : line.length + 1 < cap) :
    fgets nl cap (line ++ nl :: rest) = line ++ [nl] := by
  have room : (line ++ nl :: rest).take (cap - 1) = line ++ nl :: rest.take (cap - 2 - line.length) := by
    rw [List.take_append, List.take_of_length_le (by omega),
      show cap - 1 - line.length = cap - 2 - line.length + 1 by omega, List.take_succ_cons]
  have front : (line ++ nl :: rest.take (cap - 2 - line.length)).takeWhile (fun c => decide (c ≠ nl)) =
      line := by
    rw [List.takeWhile_append_of_pos fun c listed => by
      simpa using fun same : c = nl => plain (same ▸ listed)]
    simp
  simp only [fgets, room, front, List.take_append, List.take_of_length_le (Nat.le_succ line.length),
    Nat.add_sub_cancel_left, List.take_succ_cons, List.take_zero]

theorem fgetsLines_cons (plain : nl ∉ line) (short : line.length + 1 < cap) :
    fgetsLines nl cap (line ++ nl :: rest) = (line ++ [nl]) :: fgetsLines nl cap rest := by
  have more : line ++ nl :: rest ≠ [] := List.append_ne_nil_of_right_ne_nil _ (List.cons_ne_nil _ _)
  have behind : (line ++ nl :: rest).drop (line ++ [nl]).length = rest := by
    rw [show line ++ nl :: rest = (line ++ [nl]) ++ rest by simp, List.drop_left]
  have turns : (line ++ nl :: rest).length = line.length + rest.length + 1 := by
    rw [List.length_append, List.length_cons]
    omega
  rw [fgetsLines, turns, fgetsLoop, if_neg more]
  simp only [fgets_line plain short, behind]
  rw [fgetsLoop_enough (by omega) _ _ (by omega)]

/-- A text of short lines is read into its lines. -/
theorem fgetsLines_lines {lines : List (List α)}
    (short : ∀ line ∈ lines, nl ∉ line ∧ line.length + 1 < cap) :
    fgetsLines nl cap (lines.flatMap (· ++ [nl])) = lines.map (· ++ [nl]) := by
  induction lines with
  | nil => rfl
  | cons line lines ih =>
      obtain ⟨⟨plain, fits⟩, later⟩ := List.forall_mem_cons.mp short
      rw [List.flatMap_cons, List.append_assoc, List.singleton_append, fgetsLines_cons plain fits,
        ih later, List.map_cons]

end Buffer

/-! ## Trimming -/

/-- The text between the spaces at both ends. -/
def trim (text : List UInt8) : List UInt8 := (text.dropWhile isSpace).rdropWhile isSpace

def Spaces (s : List UInt8) : Prop := ∀ c ∈ s, isSpace c = true

/-- A text that starts and ends with something else than a space, or is empty. -/
def Trimmed (s : List UInt8) : Prop :=
  (∀ c, s.head? = some c → isSpace c = false) ∧ ∀ c, s.getLast? = some c → isSpace c = false

theorem dropWhile_spaces {l : List UInt8} (blank : Spaces l) (s : List UInt8) :
    (l ++ s).dropWhile isSpace = s.dropWhile isSpace := by
  rw [List.dropWhile_append_of_pos blank]

theorem rdropWhile_spaces {r : List UInt8} (blank : Spaces r) (s : List UInt8) :
    (s ++ r).rdropWhile isSpace = s.rdropWhile isSpace := by
  rw [List.rdropWhile, List.rdropWhile, List.reverse_append, List.dropWhile_append_of_pos]
  exact fun c listed => blank c (List.mem_reverse.mp listed)

theorem dropWhile_trimmed {s : List UInt8} (trimmed : Trimmed s) (r : List UInt8) (some_ : s ≠ []) :
    (s ++ r).dropWhile isSpace = s ++ r := by
  obtain ⟨c, t, rfl⟩ := List.exists_cons_of_ne_nil some_
  rw [List.cons_append, List.dropWhile_cons, trimmed.1 c rfl]
  rfl

theorem rdropWhile_trimmed {s : List UInt8} (trimmed : Trimmed s) : s.rdropWhile isSpace = s := by
  refine List.rdropWhile_eq_self_iff.mpr fun some_ space => ?_
  have := trimmed.2 _ (List.getLast?_eq_some_getLast some_)
  rw [space] at this
  cases this

theorem trim_spaces {s : List UInt8} (blank : Spaces s) : trim s = [] := by
  rw [trim, ← List.append_nil s, dropWhile_spaces blank]
  rfl

theorem trim_around {l s r : List UInt8} (before : Spaces l) (trimmed : Trimmed s)
    (after : Spaces r) : trim (l ++ (s ++ r)) = s := by
  by_cases some_ : s = []
  · subst some_
    refine trim_spaces fun c listed => ?_
    rcases List.mem_append.mp listed with inside | inside
    · exact before c inside
    · exact after c inside
  · rw [trim, dropWhile_spaces before, dropWhile_trimmed trimmed r some_, rdropWhile_spaces after,
      rdropWhile_trimmed trimmed]

theorem rdropWhile_behind {c : UInt8} (solid : isSpace c = false) (front s : List UInt8) :
    (front ++ c :: s).rdropWhile isSpace = front ++ c :: s.rdropWhile isSpace := by
  induction s using List.reverseRecOn with
  | nil =>
      rw [List.rdropWhile_concat_neg _ _ _ (by simp [solid]), List.rdropWhile_nil]
  | append_singleton s a ih =>
      rw [← List.cons_append, ← List.append_assoc]
      by_cases space : isSpace a = true
      · rw [List.rdropWhile_concat_pos _ _ _ space, List.rdropWhile_concat_pos _ _ _ space, ih]
      · rw [List.rdropWhile_concat_neg _ _ _ space, List.rdropWhile_concat_neg _ _ _ space,
          List.append_assoc, List.cons_append]

theorem trim_solid {l : List UInt8} (before : Spaces l) {c : UInt8} (solid : isSpace c = false)
    (s : List UInt8) : trim (l ++ c :: s) = c :: s.rdropWhile isSpace := by
  rw [trim, dropWhile_spaces before, List.dropWhile_cons, solid]
  exact rdropWhile_behind solid [] s

theorem trim_rdropWhile {l s r : List UInt8} (before : Spaces l) (trimmed : Trimmed s)
    (after : Spaces r) : trim ((l ++ (s ++ r)).rdropWhile isSpace) = s := by
  rw [← List.append_assoc, rdropWhile_spaces after]
  by_cases some_ : s = []
  · subst some_
    rw [List.append_nil, List.rdropWhile_eq_nil_iff.mpr before]
    rfl
  · have last : ∀ all : l ++ s ≠ [], ¬ isSpace ((l ++ s).getLast all) = true := by
      intro all
      rw [List.getLast_append_of_ne_nil all some_]
      exact Bool.eq_false_iff.mp (trimmed.2 _ (List.getLast?_eq_some_getLast some_))
    have around := trim_around before trimmed (r := []) fun c inside => (List.not_mem_nil inside).elim
    rw [List.append_nil] at around
    rw [List.rdropWhile_eq_self_iff.mpr last, around]

/-! ## Numbers -/

/-- `strtoul` in base 0, with an `unsigned long` of `bits` bits: the number and what stands behind it,
`none` where it reads no digit. -/
def strtoulEnd (bits : Nat) (s : List UInt8) : Option (Nat × List UInt8) :=
  let s := s.dropWhile isSpace
  let negative := s.head? = some 0x2D
  let s := if negative ∨ s.head? = some 0x2B then s.tail else s
  let base := if hexMarked s then 16 else if s.head? = some 0x30 then 8 else 10
  let s := if hexMarked s then s.drop 2 else s
  let digits := s.takeWhile fun c => digitValue c < base
  if digits = [] then none
  else
    let n := ofDigits base digits
    let value :=
      if 2 ^ bits ≤ n then 2 ^ bits - 1 else if negative then (2 ^ bits - n) % 2 ^ bits else n
    some (value, s.drop digits.length)

/-- A number in digits, or behind `0x`. -/
inductive NumberSpelled : Nat → List UInt8 → Prop
  | decimal (n : Nat) : NumberSpelled n (decimal n)
  | hex {digits : List UInt8} : digits ≠ [] → (∀ c ∈ digits, digitValue c < 16) →
      NumberSpelled (ofDigits 16 digits) (0x30 :: 0x78 :: digits)

theorem digitValue_digit {d : Nat} (small : d < 10) : digitValue (digit d) = d := by
  interval_cases d <;> rfl

theorem isDigit_value : ∀ c : UInt8, isDigit c = true → digitValue c < 10 := by decide +kernel

theorem ofDigits_digits (ds : List Nat) (small : ∀ d ∈ ds, d < 10) :
    ofDigits 10 (ds.reverse.map digit) = Nat.ofDigits 10 ds := by
  induction ds with
  | nil => rfl
  | cons d ds ih =>
      obtain ⟨first, rest⟩ := List.forall_mem_cons.mp small
      have later := ih rest
      rw [ofDigits] at later ⊢
      rw [List.reverse_cons, List.map_append, List.foldl_append, later, Nat.ofDigits_cons]
      simp only [List.map_cons, List.map_nil, List.foldl_cons, List.foldl_nil, digitValue_digit first]
      exact Nat.add_comm _ _

/-- The base that a number is in, and its digits. -/
structure Unsigned (base : Nat) (s digits : List UInt8) : Prop where
  unspaced : s.dropWhile isSpace = s
  unsigned : s.head? ≠ some 0x2D ∧ s.head? ≠ some 0x2B
  base_eq : (if hexMarked s then 16 else if s.head? = some 0x30 then 8 else 10) = base
  digits_eq : (if hexMarked s then s.drop 2 else s) = digits
  small : ∀ c ∈ digits, digitValue c < base

theorem strtoulEnd_unsigned {bits base : Nat} {s digits : List UInt8}
    (number : Unsigned base s digits) (some_ : digits ≠ []) (fits : ofDigits base digits < 2 ^ bits) :
    strtoulEnd bits s = some (ofDigits base digits, []) := by
  have all : digits.takeWhile (fun c => decide (digitValue c < base)) = digits :=
    List.takeWhile_eq_self_iff.mpr fun c listed => by simpa using number.small c listed
  simp only [strtoulEnd, number.unspaced, number.unsigned.1, number.unsigned.2, or_self, if_false,
    number.base_eq, number.digits_eq, all, if_neg some_, if_neg (Nat.not_le.mpr fits),
    List.drop_length]

theorem decimal_unsigned {n : Nat} (positive : n ≠ 0) : Unsigned 10 (decimal n) (decimal n) := by
  have digits := decimal_isDigit n
  have text : decimal n = (Nat.digits 10 n).reverse.map digit := by rw [decimal, if_neg positive]
  have some_ : Nat.digits 10 n ≠ [] := Nat.digits_ne_nil_iff_ne_zero.mpr positive
  have head : (decimal n).head? = some (digit ((Nat.digits 10 n).getLast some_)) := by
    rw [text, List.head?_map, List.head?_reverse, List.getLast?_eq_some_getLast some_]
    rfl
  have small := Nat.digits_lt_base (by decide : 1 < 10) (List.getLast_mem some_)
  have leading : (decimal n).head? ≠ some 0x30 := by
    have nonzero := Nat.getLast_digit_ne_zero 10 positive
    rw [head]
    generalize (Nat.digits 10 n).getLast some_ = d at small nonzero
    interval_cases d <;> simp_all [digit]
  obtain ⟨c, cs, split⟩ := List.exists_cons_of_ne_nil (decimal_ne_nil n)
  rw [split] at digits leading ⊢
  have plain := isDigit_plain c (digits c List.mem_cons_self)
  have unmarked : hexMarked (c :: cs) = false := by
    rcases cs with _ | ⟨x, _ | ⟨d, cs⟩⟩
    · rfl
    · rfl
    · have other : c ≠ 0x30 := fun zero => leading (congrArg some zero)
      simp only [hexMarked, beq_eq_false_iff_ne.mpr other, Bool.false_and]
  refine ⟨?_, ⟨?_, ?_⟩, ?_, ?_, fun d listed => isDigit_value d (digits d listed)⟩
  · rw [List.dropWhile_cons, plain.1]
    rfl
  · exact fun same => plain.2.1 (Option.some.inj same)
  · exact fun same => plain.2.2 (Option.some.inj same)
  · rw [unmarked, if_neg Bool.false_ne_true, if_neg leading]
  · rw [unmarked]
    rfl

theorem ofDigits_decimal {n : Nat} (positive : n ≠ 0) : ofDigits 10 (decimal n) = n := by
  rw [decimal, if_neg positive,
    ofDigits_digits _ fun d listed => Nat.digits_lt_base (by decide) listed, Nat.ofDigits_digits]

theorem hex_unsigned {digits : List UInt8} (some_ : digits ≠ [])
    (small : ∀ c ∈ digits, digitValue c < 16) : Unsigned 16 (0x30 :: 0x78 :: digits) digits := by
  obtain ⟨d, ds, rfl⟩ := List.exists_cons_of_ne_nil some_
  have marked : hexMarked (0x30 :: 0x78 :: d :: ds) = true := by
    simp only [hexMarked, small d List.mem_cons_self]
    rfl
  refine ⟨rfl, ⟨?_, ?_⟩, ?_, ?_, small⟩
  · exact fun same => absurd (Option.some.inj same) (by decide)
  · exact fun same => absurd (Option.some.inj same) (by decide)
  · rw [marked]
    rfl
  · rw [marked]
    rfl

/-- A number that is spelled and fits is read to its end. -/
theorem strtoulEnd_spelled {bits n : Nat} {s : List UInt8} (spelled : NumberSpelled n s)
    (fits : n < 2 ^ bits) : strtoulEnd bits s = some (n, []) := by
  cases spelled with
  | decimal =>
      by_cases zero : n = 0
      · subst zero
        have room : ¬ 2 ^ bits ≤ 0 := Nat.not_le.mpr fits
        simp [strtoulEnd, decimal, isSpace, hexMarked, digitValue, isDigit, ofDigits]
      · have small : ofDigits 10 (decimal n) < 2 ^ bits := by rwa [ofDigits_decimal zero]
        have number := strtoulEnd_unsigned (decimal_unsigned zero) (decimal_ne_nil n) small
        rwa [ofDigits_decimal zero] at number
  | hex some_ small => exact strtoulEnd_unsigned (hex_unsigned some_ small) some_ fits

theorem hexDigit_plain : ∀ c : UInt8, digitValue c < 16 → isSpace c = false ∧ c ≠ 0 := by
  decide +kernel

theorem NumberSpelled.plain {n : Nat} {s : List UInt8} (spelled : NumberSpelled n s) :
    ∀ c ∈ s, isSpace c = false ∧ c ≠ 0 := by
  cases spelled with
  | decimal =>
      intro c listed
      have value := isDigit_value c (decimal_isDigit n c listed)
      exact hexDigit_plain c (by omega)
  | hex some_ small =>
      refine List.forall_mem_cons.mpr ⟨by decide, List.forall_mem_cons.mpr ⟨by decide, ?_⟩⟩
      exact fun c listed => hexDigit_plain c (small c listed)

/-! ## Assignments -/

section Assignments
variable {κ σ : Type} [DecidableEq κ] {β : κ → Type}

/-- The value that an assignment gives a key. -/
def valueFor (k : κ) (a : Σ k, β k) : Option (β k) :=
  if same : a.1 = k then some (same ▸ a.2) else none

/-- The last value that a key is given, or the one that it has. -/
def lastFor (k : κ) (start : β k) (as : List (Σ k, β k)) : β k :=
  (as.filterMap (valueFor k)).getLastD start

theorem valueFor_self (k : κ) (v : β k) : valueFor k ⟨k, v⟩ = some v := dif_pos rfl

theorem valueFor_other {k : κ} {a : Σ k, β k} (other : a.1 ≠ k) : valueFor k a = none := dif_neg other

theorem lastFor_cons (k : κ) (start : β k) (a : Σ k, β k) (as : List (Σ k, β k)) :
    lastFor k start (a :: as) = lastFor k ((valueFor k a).getD start) as := by
  rw [lastFor, lastFor, List.filterMap_cons]
  cases valueFor k a with
  | none => rfl
  | some v => exact List.getLastD_cons

/-- Assignments one after the other: the last one to a key counts. -/
theorem foldl_assign {get : σ → (k : κ) → β k} {set : σ → (k : κ) → β k → σ}
    (get_set : ∀ s k v, get (set s k v) = Function.update (get s) k v)
    (as : List (Σ k, β k)) (s : σ) (k : κ) :
    get (as.foldl (fun s a => set s a.1 a.2) s) k = lastFor k (get s k) as := by
  induction as generalizing s with
  | nil => rfl
  | cons a as ih =>
      obtain ⟨j, v⟩ := a
      rw [List.foldl_cons, ih, lastFor_cons, get_set]
      by_cases same : j = k
      · subst same
        rw [Function.update_self, valueFor_self]
        rfl
      · rw [Function.update_of_ne (Ne.symm same), valueFor_other same]
        rfl

theorem lastFor_last {k : κ} (start v : β k) {before after : List (Σ k, β k)}
    (none_ : ∀ a ∈ after, a.1 ≠ k) : lastFor k start (before ++ ⟨k, v⟩ :: after) = v := by
  have silent : after.filterMap (valueFor k) = [] :=
    List.filterMap_eq_nil_iff.mpr fun a listed => valueFor_other (none_ a listed)
  rw [lastFor, List.filterMap_append, List.filterMap_cons, valueFor_self, silent]
  simp

theorem lastFor_mem (k : κ) (start : β k) (as : List (Σ k, β k)) :
    lastFor k start as = start ∨ ⟨k, lastFor k start as⟩ ∈ as := by
  induction as generalizing start with
  | nil => exact .inl rfl
  | cons a as ih =>
      obtain ⟨j, v⟩ := a
      rw [lastFor_cons]
      by_cases same : j = k
      · subst same
        rw [valueFor_self]
        rcases ih v with last | later
        · exact .inr (last.symm ▸ List.mem_cons_self)
        · exact .inr (List.mem_cons_of_mem _ later)
      · rw [valueFor_other same]
        exact (ih start).imp_right (List.mem_cons_of_mem _)

theorem lastFor_none {k : κ} (start : β k) {as : List (Σ k, β k)} (none_ : ∀ a ∈ as, a.1 ≠ k) :
    lastFor k start as = start := by
  rw [lastFor, List.filterMap_eq_nil_iff.mpr fun a listed => valueFor_other (none_ a listed)]
  rfl

end Assignments

end Lines
