import Mathlib

/-!
# Searching a text

C's `strchr` and `strstr` over lists, and where a search for a quoted word ends in a text of quoted
words. Decimal numbers, written and scanned.
-/

namespace Search

/-! ## Characters and substrings -/

section Search
variable {α : Type} [DecidableEq α]

/-- The text from the first `c` on. -/
def strchr (c : α) : List α → Option (List α)
  | [] => none
  | a :: s => if a = c then some (a :: s) else strchr c s

/-- The text from the first occurrence of `pattern` on. -/
def strstr (pattern : List α) : List α → Option (List α)
  | [] => if pattern = [] then some [] else none
  | a :: s => if pattern <+: a :: s then some (a :: s) else strstr pattern s

variable {c q : α} {s t pattern : List α}

theorem strchr_skip (absent : c ∉ s) : strchr c (s ++ t) = strchr c t := by
  induction s with
  | nil => rfl
  | cons a s ih =>
      rw [List.mem_cons, not_or] at absent
      obtain ⟨other, rest⟩ := absent
      rw [List.cons_append, strchr, if_neg (Ne.symm other), ih rest]

theorem strchr_here : strchr c (c :: t) = some (c :: t) := if_pos rfl

theorem strchr_first (absent : c ∉ s) : strchr c (s ++ c :: t) = some (c :: t) := by
  rw [strchr_skip absent, strchr_here]

theorem strstr_here (here : pattern <+: s) : strstr pattern s = some s := by
  cases s with
  | nil => rw [strstr, if_pos (List.prefix_nil.mp here)]
  | cons a s => rw [strstr, if_pos here]

theorem strstr_skip (absent : q ∉ s) : strstr (q :: pattern) (s ++ t) = strstr (q :: pattern) t := by
  induction s with
  | nil => rfl
  | cons a s ih =>
      rw [List.mem_cons, not_or] at absent
      obtain ⟨other, rest⟩ := absent
      have apart : ¬ q :: pattern <+: a :: (s ++ t) := fun here =>
        other (List.cons_prefix_cons.mp here).1
      rw [List.cons_append, strstr, if_neg apart, ih rest]

end Search

/-! ## Quoted words -/

/-- A word in quotes, with what stands before and behind it. -/
structure Piece (α : Type) where
  before : List α
  word : List α
  behind : List α

section Quoted
variable {α : Type} [DecidableEq α] {q c : α} {word key tail : List α} {piece : Piece α}
  {pieces front : List (Piece α)}

def quoted (q : α) (word : List α) : List α := q :: (word ++ [q])

def Piece.render (q : α) (piece : Piece α) : List α :=
  piece.before ++ quoted q piece.word ++ piece.behind

def render (q : α) (pieces : List (Piece α)) : List α := pieces.flatMap (Piece.render q)

omit [DecidableEq α] in
@[simp] theorem render_nil : render q ([] : List (Piece α)) = [] := rfl

omit [DecidableEq α] in
theorem render_append : render q (front ++ pieces) = render q front ++ render q pieces :=
  List.flatMap_append

omit [DecidableEq α] in
theorem render_cons : render q (piece :: pieces) =
    piece.before ++ (q :: (piece.word ++ (q :: (piece.behind ++ render q pieces)))) := by
  simp [render, Piece.render, quoted]

omit [DecidableEq α] in
theorem absent_render (other : c ≠ q)
    (all : ∀ p ∈ pieces, c ∉ p.before ∧ c ∉ p.word ∧ c ∉ p.behind) : c ∉ render q pieces := by
  induction pieces with
  | nil => exact List.not_mem_nil
  | cons p pieces ih =>
      obtain ⟨⟨before, word, behind⟩, rest⟩ := List.forall_mem_cons.mp all
      simp [render_cons, before, other, word, behind, ih rest]

/-- Quotes stand around words only, and something stands behind each word that is not in `key`. -/
structure Piece.Parts (q : α) (key : List α) (piece : Piece α) : Prop where
  before : q ∉ piece.before
  word : q ∉ piece.word
  behind : q ∉ piece.behind
  parts : ∃ c ∈ piece.behind, c ∉ key

omit [DecidableEq α] in
theorem prefix_quoted (plain : q ∉ key) (other : q ∉ word) :
    key ++ [q] <+: word ++ q :: tail ↔ key = word := by
  constructor
  · intro here
    obtain ⟨rest, same⟩ := here
    rw [List.append_assoc, List.singleton_append] at same
    induction key generalizing word with
    | nil =>
        cases word with
        | nil => rfl
        | cons w word =>
            have first := (List.cons.inj same).1
            exact absurd (first ▸ List.mem_cons_self) other
    | cons k key ih =>
        cases word with
        | nil =>
            have first := (List.cons.inj same).1
            exact absurd (first ▸ List.mem_cons_self) plain
        | cons w word =>
            obtain ⟨rfl, rest⟩ := List.cons.inj same
            rw [ih (fun inside => plain (List.mem_cons_of_mem k inside))
              (fun inside => other (List.mem_cons_of_mem k inside)) rest]
  · rintro rfl
    exact ⟨tail, by simp⟩

/-- From a quote behind which a word starts that is not the key, the search goes on. -/
theorem strstr_other (plain : q ∉ key) (other : q ∉ word) (apart : key ≠ word) :
    strstr (quoted q key) (q :: (word ++ q :: tail)) = strstr (quoted q key) (q :: tail) := by
  have elsewhere : ¬ quoted q key <+: q :: (word ++ q :: tail) := fun here =>
    apart ((prefix_quoted plain other).mp (List.cons_prefix_cons.mp here).2)
  rw [strstr, if_neg elsewhere]
  exact strstr_skip other

theorem strstr_unquoted (ends : q ∉ tail) : strstr (quoted q key) tail = none := by
  have rest : strstr (quoted q key) (tail ++ []) = strstr (quoted q key) [] := strstr_skip ends
  rw [List.append_nil] at rest
  exact rest.trans (if_neg (List.cons_ne_nil _ _))

theorem strstr_last (other : q ∉ word) : strstr (quoted q key) (q :: word) = none := by
  have elsewhere : ¬ quoted q key <+: q :: word := by
    intro here
    have inside := (List.cons_prefix_cons.mp here).2.subset (List.mem_append_right key
      (List.mem_singleton_self q))
    exact other inside
  rw [strstr, if_neg elsewhere]
  exact strstr_unquoted other

theorem strstr_between (plain : q ∉ key) (other : q ∉ word) (apart : key ≠ word)
    (next : tail = [] ∨ ∃ rest, tail = q :: rest) :
    strstr (quoted q key) (q :: (word ++ tail)) = strstr (quoted q key) tail := by
  rcases next with rfl | ⟨rest, rfl⟩
  · rw [List.append_nil, strstr_last other]
    exact (strstr_unquoted List.not_mem_nil).symm
  · exact strstr_other plain other apart

theorem strstr_piece (plain : q ∉ key) (ends : q ∉ tail) (parts : piece.Parts q key)
    (apart : piece.word ≠ key) (all : ∀ p ∈ pieces, p.Parts q key) :
    strstr (quoted q key) (piece.render q ++ (render q pieces ++ tail)) =
      strstr (quoted q key) (render q pieces ++ tail) := by
  obtain ⟨c, behind, foreign⟩ := parts.parts
  have text : piece.render q ++ (render q pieces ++ tail) = piece.before ++
      q :: (piece.word ++ q :: (piece.behind ++ (render q pieces ++ tail))) := by
    simp [Piece.render, quoted]
  rw [text]
  refine (strstr_skip parts.before).trans ?_
  refine (strstr_other plain parts.word (Ne.symm apart)).trans ?_
  cases pieces with
  | nil =>
      have rest : q ∉ piece.behind ++ (render q [] ++ tail) := by
        simp [render, parts.behind, ends]
      rw [strstr_last rest, render, List.flatMap_nil, List.nil_append]
      exact (strstr_unquoted ends).symm
  | cons p rest =>
      have before := (all p List.mem_cons_self).before
      have next : render q (p :: rest) ++ tail = p.before ++
          q :: (p.word ++ q :: (p.behind ++ (render q rest ++ tail))) := by
        simp [render, Piece.render, quoted]
      have between : key ≠ piece.behind ++ p.before := fun same =>
        foreign (same ▸ List.mem_append_left _ behind)
      have quoteless : q ∉ piece.behind ++ p.before := by
        simp [parts.behind, before]
      rw [next, ← List.append_assoc piece.behind]
      exact (strstr_between plain quoteless between (.inr ⟨_, rfl⟩)).trans (strstr_skip before).symm

/-- The search ends at the first piece with the key as its word. -/
theorem strstr_render (plain : q ∉ key) (ends : q ∉ tail)
    (all : ∀ p ∈ front ++ piece :: pieces, p.Parts q key)
    (earlier : ∀ p ∈ front, p.word ≠ key) (here : piece.word = key) :
    strstr (quoted q key) (render q (front ++ piece :: pieces) ++ tail) =
      some (quoted q key ++ (piece.behind ++ (render q pieces ++ tail))) := by
  induction front with
  | nil =>
      have before := (all piece List.mem_cons_self).before
      have text : render q (piece :: pieces) ++ tail =
          piece.before ++ (quoted q key ++ (piece.behind ++ (render q pieces ++ tail))) := by
        simp [render, Piece.render, here]
      rw [List.nil_append, text]
      refine (strstr_skip before).trans (strstr_here ?_)
      exact List.prefix_append _ _
  | cons p front ih =>
      obtain ⟨parts, rest⟩ := List.forall_mem_cons.mp all
      obtain ⟨apart, later⟩ := List.forall_mem_cons.mp earlier
      rw [List.cons_append, render, List.flatMap_cons, List.append_assoc]
      exact (strstr_piece plain ends parts apart rest).trans (ih rest later)

end Quoted

/-! ## Decimal numbers -/

def isDigit (c : UInt8) : Bool := 0x30 ≤ c && c ≤ 0x39

def isSpace (c : UInt8) : Bool := c == 0x20 || (0x09 ≤ c && c ≤ 0x0D)

def digit (d : Nat) : UInt8 := UInt8.ofNat (0x30 + d)

/-- `%u`, written. -/
def decimal (n : Nat) : List UInt8 :=
  if n = 0 then [0x30] else (Nat.digits 10 n).reverse.map digit

/-- The number that a text of digits stands for. -/
def ofDecimal (digits : List UInt8) : Nat :=
  digits.foldl (fun n c => 10 * n + (c.toNat - 0x30)) 0

/-- `%u`, scanned: behind white space and a sign, the digits up to the first other character. -/
def scanDecimal (s : List UInt8) : Option UInt32 :=
  let s := s.dropWhile isSpace
  let negative := s.head? = some 0x2D
  let s := if negative ∨ s.head? = some 0x2B then s.tail else s
  let digits := s.takeWhile isDigit
  if digits = [] then none
  else
    let value := UInt32.ofNat (ofDecimal digits)
    some (if negative then -value else value)

theorem digit_isDigit {d : Nat} (small : d < 10) : isDigit (digit d) = true := by
  interval_cases d <;> rfl

theorem digit_toNat {d : Nat} (small : d < 10) : (digit d).toNat - 0x30 = d := by
  interval_cases d <;> rfl

theorem decimal_isDigit (n : Nat) : ∀ c ∈ decimal n, isDigit c = true := by
  unfold decimal
  split
  · exact List.forall_mem_singleton.mpr rfl
  · intro c listed
    obtain ⟨d, member, rfl⟩ := List.mem_map.mp listed
    exact digit_isDigit (Nat.digits_lt_base (by decide) (List.mem_reverse.mp member))

theorem decimal_ne_nil (n : Nat) : decimal n ≠ [] := by
  unfold decimal
  split
  · exact List.cons_ne_nil _ _
  · rename_i positive
    simpa using Nat.digits_ne_nil_iff_ne_zero.mpr positive

theorem ofDecimal_digits (ds : List Nat) (small : ∀ d ∈ ds, d < 10) :
    ofDecimal (ds.reverse.map digit) = Nat.ofDigits 10 ds := by
  induction ds with
  | nil => rfl
  | cons d ds ih =>
      obtain ⟨first, rest⟩ := List.forall_mem_cons.mp small
      have later := ih rest
      rw [ofDecimal] at later ⊢
      rw [List.reverse_cons, List.map_append, List.foldl_append, later, Nat.ofDigits_cons]
      simp only [List.map_cons, List.map_nil, List.foldl_cons, List.foldl_nil, digit_toNat first]
      exact Nat.add_comm _ _

theorem ofDecimal_decimal (n : Nat) : ofDecimal (decimal n) = n := by
  unfold decimal
  split
  · rename_i zero
    exact zero.symm
  · rw [ofDecimal_digits _ fun d listed => Nat.digits_lt_base (by decide) listed,
      Nat.ofDigits_digits]

theorem isDigit_plain :
    ∀ d : UInt8, isDigit d = true → isSpace d = false ∧ d ≠ 0x2D ∧ d ≠ 0x2B := by
  decide +kernel

theorem isDigit_blank : ∀ d : UInt8, isDigit d = true → d ≠ 0x20 ∧ d ≠ 0x09 := by
  decide +kernel

theorem scanDecimal_decimal (n : UInt32) {c : UInt8} (ends : isDigit c = false)
    (rest : List UInt8) : scanDecimal (decimal n.toNat ++ c :: rest) = some n := by
  obtain ⟨d, ds, text⟩ := List.exists_cons_of_ne_nil (decimal_ne_nil n.toNat)
  have first : isDigit d = true := decimal_isDigit n.toNat d (text ▸ List.mem_cons_self)
  have plain := isDigit_plain d first
  have digits : (decimal n.toNat ++ c :: rest).takeWhile isDigit = decimal n.toNat := by
    rw [List.takeWhile_append_of_pos (decimal_isDigit n.toNat), List.takeWhile_cons, ends]
    simp
  have start : (decimal n.toNat ++ c :: rest).dropWhile isSpace = decimal n.toNat ++ c :: rest := by
    rw [text, List.cons_append, List.dropWhile_cons, plain.1]
    rfl
  have unsigned : (decimal n.toNat ++ c :: rest).head? = some d := by
    rw [text]
    rfl
  simp only [scanDecimal, start, unsigned, Option.some.injEq, plain.2.1, plain.2.2, or_self,
    if_false, digits, decimal_ne_nil, ofDecimal_decimal, UInt32.ofNat_toNat]

/-! ## Numbers in any base -/

/-- The value of a digit or a letter; 36 for any other character. -/
def digitValue (c : UInt8) : Nat :=
  if isDigit c then c.toNat - 0x30
  else if 0x61 ≤ c ∧ c ≤ 0x7A then c.toNat - 0x61 + 10
  else if 0x41 ≤ c ∧ c ≤ 0x5A then c.toNat - 0x41 + 10
  else 36

def ofDigits (base : Nat) (digits : List UInt8) : Nat :=
  digits.foldl (fun n c => base * n + digitValue c) 0

/-- `0x` with a digit behind it. -/
def hexMarked : List UInt8 → Bool
  | z :: x :: d :: _ => z == 0x30 && (x == 0x78 || x == 0x58) && decide (digitValue d < 16)
  | _ => false

/-- `strtoul` in base 0, with an `unsigned long` of 64 bits; `none` where it reads no digit. -/
def strtoul (s : List UInt8) : Option UInt64 :=
  let s := s.dropWhile isSpace
  let negative := s.head? = some 0x2D
  let s := if negative ∨ s.head? = some 0x2B then s.tail else s
  let base := if hexMarked s then 16 else if s.head? = some 0x30 then 8 else 10
  let digits := (if hexMarked s then s.drop 2 else s).takeWhile fun c => digitValue c < base
  if digits = [] then none
  else if 2 ^ 64 ≤ ofDigits base digits then some (-1)
  else
    let value := UInt64.ofNat (ofDigits base digits)
    some (if negative then -value else value)

theorem ofDigits_lt {base : Nat} {digits : List UInt8} (small : ∀ c ∈ digits, digitValue c < base) :
    ofDigits base digits < base ^ digits.length := by
  induction digits using List.reverseRecOn with
  | nil => exact Nat.one_pos
  | append_singleton digits c ih =>
      have before := ih fun d listed => small d (List.mem_append_left _ listed)
      have last := small c (List.mem_append_right _ List.mem_cons_self)
      rw [ofDigits] at before
      rw [ofDigits, List.foldl_append, List.length_append, List.length_singleton, Nat.pow_succ]
      simp only [List.foldl_cons, List.foldl_nil]
      nlinarith

theorem strtoul_hex {digits : List UInt8} (some_ : digits ≠ []) (short : digits.length ≤ 16)
    (small : ∀ c ∈ digits, digitValue c < 16) :
    strtoul (0x30 :: 0x78 :: digits) = some (UInt64.ofNat (ofDigits 16 digits)) := by
  obtain ⟨d, ds, rfl⟩ := List.exists_cons_of_ne_nil some_
  have marked : hexMarked (0x30 :: 0x78 :: d :: ds) = true := by
    simp only [hexMarked, small d List.mem_cons_self]
    rfl
  have all : (d :: ds).takeWhile (fun c => decide (digitValue c < 16)) = d :: ds :=
    List.takeWhile_eq_self_iff.mpr fun c listed => by simpa using small c listed
  have bound : ofDigits 16 (d :: ds) < 2 ^ 64 :=
    (ofDigits_lt small).trans_le (Nat.pow_le_pow_right (by omega) short |>.trans (by norm_num))
  have start : (0x30 :: 0x78 :: d :: ds).dropWhile isSpace = 0x30 :: 0x78 :: d :: ds := rfl
  have minus : ((0x30 : UInt8) = 0x2D) = False := by decide
  have plus : ((0x30 : UInt8) = 0x2B) = False := by decide
  simp only [strtoul, start, List.head?_cons, Option.some.injEq, minus, plus, or_self, if_false,
    marked, if_true, List.drop_succ_cons, List.drop_zero, all, if_neg some_,
    if_neg (Nat.not_le.mpr bound)]

end Search
