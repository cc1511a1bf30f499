import Mathlib.Data.Nat.Digits.Lemmas

/-! JSON texts without white space between their tokens, as lists of bytes. A byte from 0x80 on is an ordinary
character of a string. -/

namespace Json

abbrev Text := List (BitVec 8)

def char (c : Char) : BitVec 8 := BitVec.ofNat 8 c.toNat

def ascii (s : String) : Text := s.toList.map char

def Digit (b : BitVec 8) : Prop := 48 ≤ b.toNat ∧ b.toNat ≤ 57

def HexDigit (b : BitVec 8) : Prop := Digit b ∨ (65 ≤ b.toNat ∧ b.toNat ≤ 70) ∨ (97 ≤ b.toNat ∧ b.toNat ≤ 102)

def Plain (b : BitVec 8) : Prop := 32 ≤ b.toNat ∧ b.toNat ≠ 34 ∧ b.toNat ≠ 92

inductive Body : Text → Prop
  | nil : Body []
  | plain {b : BitVec 8} {s : Text} : Plain b → Body s → Body (b :: s)
  | escape {b : BitVec 8} {s : Text} : b ∈ ascii "\"\\/bfnrt" → Body s → Body (char '\\' :: b :: s)
  | unicode {a b c d : BitVec 8} {s : Text} : HexDigit a → HexDigit b → HexDigit c → HexDigit d → Body s →
      Body (char '\\' :: char 'u' :: a :: b :: c :: d :: s)

def quoted (s : Text) : Text := char '"' :: s ++ [char '"']

inductive StringLit : Text → Prop
  | mk {s : Text} : Body s → StringLit (quoted s)

inductive Natural : Text → Prop
  | zero : Natural [char '0']
  | digits {d : BitVec 8} {ds : Text} : Digit d → d ≠ char '0' → (∀ b ∈ ds, Digit b) → Natural (d :: ds)

inductive Fraction : Text → Prop
  | none : Fraction []
  | digits {ds : Text} : ds ≠ [] → (∀ b ∈ ds, Digit b) → Fraction (char '.' :: ds)

inductive Exponent : Text → Prop
  | none : Exponent []
  | digits {e : BitVec 8} {sign ds : Text} : e = char 'e' ∨ e = char 'E' → sign = [] ∨ sign = ascii "+" ∨ sign = ascii "-" →
      ds ≠ [] → (∀ b ∈ ds, Digit b) → Exponent (e :: sign ++ ds)

inductive Number : Text → Prop
  | mk {sign n f e : Text} : sign = [] ∨ sign = ascii "-" → Natural n → Fraction f → Exponent e →
      Number (sign ++ n ++ f ++ e)

mutual

inductive Value : Text → Prop
  | literal {t : Text} : t ∈ [ascii "true", ascii "false", ascii "null"] → Value t
  | number {t : Text} : Number t → Value t
  | string {t : Text} : StringLit t → Value t
  | emptyArray : Value [char '[', char ']']
  | array {t : Text} : Elements t → Value (char '[' :: t ++ [char ']'])
  | emptyObject : Value [char '\x7b', char '\x7d']
  | object {t : Text} : Members t → Value (char '\x7b' :: t ++ [char '\x7d'])

inductive Elements : Text → Prop
  | last {v : Text} : Value v → Elements v
  | more {v t : Text} : Value v → Elements t → Elements (v ++ char ',' :: t)

inductive Members : Text → Prop
  | last {name v : Text} : StringLit name → Value v → Members (name ++ char ':' :: v)
  | more {name v t : Text} : StringLit name → Value v → Members t → Members (name ++ char ':' :: v ++ char ',' :: t)

end

inductive Object : Text → Prop
  | empty : Object [char '\x7b', char '\x7d']
  | members {t : Text} : Members t → Object (char '\x7b' :: t ++ [char '\x7d'])

theorem Object.value {t : Text} (h : Object t) : Value t := by
  cases h with
  | empty => exact .emptyObject
  | members h => exact .object h

section Strings

theorem Body.append {s t : Text} (hs : Body s) (ht : Body t) : Body (s ++ t) := by
  induction hs with
  | nil => exact ht
  | plain hb _ ih => exact .plain hb ih
  | escape hb _ ih => exact .escape hb ih
  | unicode ha hb hc hd _ ih => exact .unicode ha hb hc hd ih

theorem body_of_plain {s : Text} (h : ∀ b ∈ s, Plain b) : Body s := by
  induction s with
  | nil => exact .nil
  | cons b s ih =>
    obtain ⟨hb, hs⟩ := List.forall_mem_cons.mp h
    exact .plain hb (ih hs)

theorem body_flatMap {α : Type} {f : α → Text} {l : List α} (h : ∀ a ∈ l, Body (f a)) : Body (l.flatMap f) := by
  induction l with
  | nil => exact .nil
  | cons a l ih =>
    obtain ⟨ha, hl⟩ := List.forall_mem_cons.mp h
    rw [List.flatMap_cons]
    exact ha.append (ih hl)

def plainChar (c : Char) : Bool := decide (32 ≤ c.toNat) && c.toNat != 34 && c.toNat != 92 && decide (c.toNat ≤ 126)

theorem stringLit_name {l : List Char} (h : l.all plainChar = true) : StringLit (quoted (ascii (String.ofList l))) := by
  refine .mk (body_of_plain fun b hb => ?_)
  rw [ascii, String.toList_ofList] at hb
  obtain ⟨c, hc, rfl⟩ := List.mem_map.mp hb
  have hplain := List.all_eq_true.mp h c hc
  simp only [plainChar, Bool.and_eq_true, decide_eq_true_eq, bne_iff_ne] at hplain
  obtain ⟨⟨⟨hlow, hquote⟩, hslash⟩, hhigh⟩ := hplain
  have hval : (char c).toNat = c.toNat := Nat.mod_eq_of_lt (by omega)
  exact ⟨by omega, by omega, by omega⟩

end Strings

section Numbers

def digit (n : ℕ) : BitVec 8 := BitVec.ofNat 8 (48 + n)

def decimal (n : ℕ) : Text := if n = 0 then [char '0'] else (Nat.digits 10 n).reverse.map digit

def hexDigit (n : ℕ) : BitVec 8 := if n < 10 then digit n else BitVec.ofNat 8 (87 + n)

theorem digit_toNat {n : ℕ} (h : n < 10) : (digit n).toNat = 48 + n := Nat.mod_eq_of_lt (by omega)

theorem digit_valid {n : ℕ} (h : n < 10) : Digit (digit n) := by
  rw [Digit, digit_toNat h]
  omega

theorem hexDigit_valid {n : ℕ} (h : n < 16) : HexDigit (hexDigit n) := by
  by_cases hn : n < 10
  · rw [hexDigit, if_pos hn]
    exact .inl (digit_valid hn)
  · have hval : (hexDigit n).toNat = 87 + n := by
      rw [hexDigit, if_neg hn]
      exact Nat.mod_eq_of_lt (by omega)
    refine .inr (.inr ?_)
    omega

theorem decimal_natural (n : ℕ) : Natural (decimal n) := by
  unfold decimal
  split
  · exact .zero
  · rename_i hn
    -- The most significant digit comes first and is not zero.
    have hne : (Nat.digits 10 n).reverse ≠ [] := by simpa [Nat.digits_eq_nil_iff_eq_zero] using hn
    have hdigit : ∀ d ∈ (Nat.digits 10 n).reverse, d < 10 := fun d hd =>
      Nat.digits_lt_base (by decide) (List.mem_reverse.mp hd)
    have hhead := Nat.getLast_digit_ne_zero 10 hn
    rw [← List.head_reverse hne] at hhead
    generalize (Nat.digits 10 n).reverse = l at *
    cases l with
    | nil => exact absurd rfl hne
    | cons d ds =>
      obtain ⟨hd, hds⟩ := List.forall_mem_cons.mp hdigit
      refine .digits (digit_valid hd) (fun h => hhead ?_) fun b hb => ?_
      · have hnat := congrArg BitVec.toNat h
        rw [digit_toNat hd] at hnat
        exact Nat.add_left_cancel hnat
      · obtain ⟨x, hx, rfl⟩ := List.mem_map.mp hb
        exact digit_valid (hds x hx)

theorem decimal_value (n : ℕ) : Value (decimal n) := by
  have := Number.mk (.inl rfl) (decimal_natural n) .none .none
  rw [List.nil_append, List.append_nil, List.append_nil] at this
  exact .number this

end Numbers

section Sequences

def joined (ts : List Text) : Text := [char ','].intercalate ts

theorem joined_singleton (t : Text) : joined [t] = t := List.append_nil t

theorem joined_cons_cons (t u : Text) (ts : List Text) : joined (t :: u :: ts) = t ++ char ',' :: joined (u :: ts) := rfl

theorem joined_concat (ts : List Text) (t : Text) : joined (ts ++ [t]) = ts.flatMap (· ++ [char ',']) ++ t := by
  induction ts with
  | nil => exact joined_singleton t
  | cons u ts ih =>
    have hcons : joined (u :: (ts ++ [t])) = u ++ char ',' :: joined (ts ++ [t]) := by
      cases ts <;> exact joined_cons_cons ..
    rw [List.cons_append, hcons, ih, List.flatMap_cons, List.append_assoc, List.append_assoc]
    rfl

theorem elements_joined {t : Text} {ts : List Text} (h : ∀ u ∈ t :: ts, Value u) : Elements (joined (t :: ts)) := by
  induction ts generalizing t with
  | nil =>
    rw [joined_singleton]
    exact .last (h t List.mem_cons_self)
  | cons u ts ih =>
    obtain ⟨ht, hts⟩ := List.forall_mem_cons.mp h
    exact .more ht (ih hts)

theorem array_joined {ts : List Text} (h : ∀ t ∈ ts, Value t) : Value (char '[' :: joined ts ++ [char ']']) := by
  cases ts with
  | nil => exact .emptyArray
  | cons t ts => exact .array (elements_joined h)

inductive Member : Text → Prop
  | mk {name v : Text} : StringLit name → Value v → Member (name ++ char ':' :: v)

theorem members_joined {t : Text} {ts : List Text} (h : ∀ u ∈ t :: ts, Member u) : Members (joined (t :: ts)) := by
  induction ts generalizing t with
  | nil =>
    rw [joined_singleton]
    cases h t List.mem_cons_self with
    | mk hname hv => exact .last hname hv
  | cons u ts ih =>
    obtain ⟨ht, hts⟩ := List.forall_mem_cons.mp h
    cases ht with
    | mk hname hv => exact .more hname hv (ih hts)

theorem object_joined {ts : List Text} (h : ∀ t ∈ ts, Member t) : Object (char '\x7b' :: joined ts ++ [char '\x7d']) := by
  cases ts with
  | nil => exact .empty
  | cons t ts => exact .members (members_joined h)

end Sequences

end Json
