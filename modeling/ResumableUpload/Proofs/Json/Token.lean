import ResumableUpload.Json.Reader
import ResumableUpload.Json.Writer
import ResumableUpload.Proofs.Text.Decimal
import Mathlib.Data.List.Basic
import Mathlib.Tactic.IntervalCases

/-! The texts and the numbers of a document are read back from what is written, whatever follows them. -/

namespace ResumableUpload.Json

open Reader

variable {ds rest : List Char} {n : Nat}

namespace Reader.Piece

def Gives (p : Piece) (c : Char) : Prop := ∀ ps, characters (p :: ps) = (characters ps).map (c :: ·)

lemma gives_char (c : Char) : (char c).Gives c := fun _ => rfl

lemma gives_unit {c : Char} (h : c.toNat < 0x20) : (unit c.toNat).Gives c := by
  intro ps
  rw [characters.eq_def]
  dsimp only
  rw [if_neg (by omega), if_neg (by omega), Char.ofNat_toNat]

end Reader.Piece

open Reader.Piece (gives_char gives_unit)

lemma hexUnit?_control : ∀ n < 0x20, hexUnit? '0' '0' (Text.Hex.digit (n / 16)) (Text.Hex.digit (n % 16)) = some n := by
  decide

lemma pieces_char {c : Char} (hquote : c ≠ '"') (hslash : c ≠ '\\') (hcontrol : ¬ c.toNat < 0x20) (tail : List Char) :
    pieces (c :: tail) = (pieces tail).bind fun (more, after) => some (.char c :: more, after) := by
  rw [pieces, if_neg (by simp [hslash, hcontrol])]
  · rfl
  · exact hquote
  · exact fun _ _ _ _ _ he => absurd he hslash
  · exact fun _ _ he => absurd he hslash

lemma pieces_escape (c : Char) (tail : List Char) : ∃ p : Piece, p.Gives c ∧
    pieces (Writer.escape c ++ tail) = (pieces tail).bind fun (more, after) => some (p :: more, after) := by
  rw [Writer.escape]
  split_ifs with hquote hslash hn hr ht hb hf hcontrol
  · exact ⟨.char c, gives_char c, by subst hquote; rfl⟩
  · exact ⟨.char c, gives_char c, by subst hslash; rfl⟩
  · exact ⟨.char c, gives_char c, by subst hn; rfl⟩
  · exact ⟨.char c, gives_char c, by subst hr; rfl⟩
  · exact ⟨.char c, gives_char c, by subst ht; rfl⟩
  · exact ⟨.char c, gives_char c, by subst hb; rfl⟩
  · exact ⟨.char c, gives_char c, by subst hf; rfl⟩
  · refine ⟨.unit c.toNat, gives_unit hcontrol, ?_⟩
    simp only [List.cons_append, List.nil_append]
    rw [pieces, hexUnit?_control _ hcontrol]
    rfl
  · exact ⟨.char c, gives_char c, pieces_char hquote hslash hcontrol tail⟩

lemma pieces_text (cs rest : List Char) : ∃ ps,
    pieces (cs.flatMap Writer.escape ++ '"' :: rest) = some (ps, rest) ∧ characters ps = some cs := by
  induction cs with
  | nil => exact ⟨[], rfl, rfl⟩
  | cons c cs ih =>
    obtain ⟨ps, hps, hcs⟩ := ih
    obtain ⟨p, hp, hescape⟩ := pieces_escape c (cs.flatMap Writer.escape ++ '"' :: rest)
    refine ⟨p :: ps, ?_, ?_⟩
    · rw [List.flatMap_cons, List.append_assoc, hescape, hps]
      rfl
    · rw [hp, hcs]
      rfl

lemma text?_text (s : String) (rest : List Char) :
    text? (s.toList.flatMap Writer.escape ++ '"' :: rest) = some (some s, rest) := by
  obtain ⟨ps, hps, hcs⟩ := pieces_text s.toList rest
  rw [text?, hps]
  simp [hcs]

def Stops (rest : List Char) : Prop := ∀ c ∈ rest.head?, isDigit c = false ∧ c ∉ ['.', 'e', 'E']

lemma span_digits (hd : ∀ c ∈ ds, isDigit c = true) (hr : ∀ c ∈ rest.head?, isDigit c = false) :
    (ds ++ rest).takeWhile isDigit = ds ∧ (ds ++ rest).dropWhile isDigit = rest := by
  induction ds with
  | nil =>
    cases rest with
    | nil => exact ⟨rfl, rfl⟩
    | cons c rest => simp [hr c rfl]
  | cons d ds ih =>
    obtain ⟨htake, hdrop⟩ := ih fun c hc => hd c (List.mem_cons_of_mem d hc)
    simp [hd d List.mem_cons_self, htake, hdrop]

lemma isDigit_decimal : ∀ c ∈ Writer.decimal n, isDigit c = true := by
  intro c hc
  exact Nat.isDigit_of_mem_toDigits (by decide) (by decide) hc

lemma decimal_ne_nil : Writer.decimal n ≠ [] := Nat.toDigits_ne_nil

lemma digitsValue_decimal : digitsValue (Writer.decimal n) = n := Nat.ofDigitChars_ten_toDigits

lemma length_decimal (h : (Writer.decimal n).head? = some '0') : (Writer.decimal n).length = 1 := by
  suffices hzero : n = 0 by
    rw [hzero]
    rfl
  contrapose! h
  rw [Writer.decimal]
  induction n using Nat.strong_induction_on with
  | h n ih =>
    rcases Nat.lt_or_ge n 10 with hlt | hge
    · interval_cases n <;> first | exact absurd rfl h | decide
    · rw [Nat.toDigits_of_base_le (by decide) hge, List.head?_append_of_ne_nil _ Nat.toDigits_ne_nil]
      exact ih (n / 10) (Nat.div_lt_self (by omega) (by decide)) (by omega)

lemma decimal_append_ne {c : Char} (hc : isDigit c = false) (n : Nat) (rest more : List Char) :
    Writer.decimal n ++ rest ≠ c :: more := by
  intro he
  cases hn : Writer.decimal n with
  | nil => exact decimal_ne_nil hn
  | cons d ds =>
    rw [hn] at he
    obtain rfl := (List.cons.inj he).1
    exact absurd (isDigit_decimal d (hn ▸ List.mem_cons_self)) (hc ▸ Bool.false_ne_true)

lemma exponent?_integer (e : Int) (hr : ∀ c ∈ rest.head?, isDigit c = false) :
    exponent? (Writer.integer e ++ rest) = some (e, rest) := by
  cases e with
  | ofNat n =>
    obtain ⟨htake, hdrop⟩ := span_digits (isDigit_decimal (n := n)) hr
    rw [Writer.integer, exponent?, htake, if_neg decimal_ne_nil, hdrop, digitsValue_decimal]
    · rfl
    · exact fun more => decimal_append_ne (by decide) n rest more
    · exact fun more => decimal_append_ne (by decide) n rest more
  | negSucc n =>
    obtain ⟨htake, hdrop⟩ := span_digits (isDigit_decimal (n := n + 1)) hr
    rw [Writer.integer, List.cons_append, exponent?, htake, if_neg decimal_ne_nil, hdrop, digitsValue_decimal]
    rfl

lemma digit_fraction : ∀ d : Fin 10, isDigit (Text.Hex.digit d.val) = true ∧ digitOf (Text.Hex.digit d.val) = d := by
  decide

lemma map_digitOf (fraction : List (Fin 10)) :
    (fraction.map fun d => Text.Hex.digit d.val).map digitOf = fraction := by
  rw [List.map_map]
  exact List.map_id'' (fun d => (digit_fraction d).2) fraction

def power? (n : Option Int → Number) (cs : List Char) : Option (Number × List Char) := do
  let (exponent, cs) ← match cs with
    | 'e' :: rest => (exponent? rest).map fun (e, rest) => (some e, rest)
    | 'E' :: rest => (exponent? rest).map fun (e, rest) => (some e, rest)
    | _ => some (none, cs)
  return (n exponent, cs)

def unsigned? (negative : Bool) (cs : List Char) : Option (Number × List Char) := do
  let whole := cs.takeWhile isDigit
  let cs := cs.dropWhile isDigit
  guard (whole ≠ [] ∧ (whole.head? = some '0' → whole.length = 1))
  let (fraction, cs) ← match cs with
    | '.' :: rest =>
      if rest.takeWhile isDigit = [] then none
      else some ((rest.takeWhile isDigit).map digitOf, rest.dropWhile isDigit)
    | _ => some ([], cs)
  power? (⟨negative, digitsValue whole, fraction, ·⟩) cs

lemma number?_eq_unsigned? {cs : List Char} (h : ∀ more, cs ≠ '-' :: more) : number? cs = unsigned? false cs := by
  rw [number?]
  · rfl
  · exact h

def powerText (exponent : Option Int) : List Char := exponent.elim [] fun e => 'e' :: Writer.integer e

def fractionText (fraction : List (Fin 10)) : List Char :=
  if fraction = [] then [] else '.' :: fraction.map fun d => Text.Hex.digit d.val

lemma number_eq (n : Number) : Writer.number n = (if n.negative then ['-'] else []) ++
    (Writer.decimal n.whole ++ (fractionText n.fraction ++ powerText n.exponent)) := by
  obtain ⟨negative, whole, fraction, exponent⟩ := n
  cases exponent <;> simp [Writer.number, fractionText, powerText]

lemma stops_powerText (e : Option Int) (hr : Stops rest) :
    ∀ c ∈ (powerText e ++ rest).head?, isDigit c = false ∧ c ≠ '.' := by
  cases e with
  | none => exact fun c hc => ⟨(hr c hc).1, fun he => (hr c hc).2 (he ▸ List.mem_cons_self)⟩
  | some e =>
    rintro c ⟨⟩
    decide

lemma power?_text (n : Option Int → Number) (e : Option Int) (hr : Stops rest) :
    power? n (powerText e ++ rest) = some (n e, rest) := by
  cases e with
  | none =>
    rw [powerText, Option.elim_none, List.nil_append, power?]
    · rfl
    · rintro more rfl
      exact absurd (hr 'e' rfl).2 (by decide)
    · rintro more rfl
      exact absurd (hr 'E' rfl).2 (by decide)
  | some e =>
    rw [powerText, Option.elim_some, List.cons_append, power?, exponent?_integer e fun c hc => (hr c hc).1]
    rfl

lemma unsigned?_text (negative : Bool) (whole : Nat) (fraction : List (Fin 10)) (e : Option Int)
    (hr : Stops rest) : unsigned? negative (Writer.decimal whole ++ (fractionText fraction ++ (powerText e ++ rest))) =
      some (⟨negative, whole, fraction, e⟩, rest) := by
  have hpower := stops_powerText e hr
  cases fraction with
  | nil =>
    obtain ⟨htake, hdrop⟩ := span_digits (isDigit_decimal (n := whole)) fun c hc => (hpower c hc).1
    rw [fractionText, if_pos rfl, List.nil_append, unsigned?]
    simp only [htake, hdrop, digitsValue_decimal, guard, if_pos (And.intro decimal_ne_nil length_decimal)]
    split
    · next more hmore =>
      rw [hmore] at hpower
      exact absurd rfl (hpower '.' rfl).2
    · exact power?_text (fun e => ⟨negative, whole, [], e⟩) e hr
  | cons d ds =>
    have hdigits : ∀ c ∈ (d :: ds).map fun d => Text.Hex.digit d.val, isDigit c = true := by
      intro c hc
      obtain ⟨d, -, rfl⟩ := List.mem_map.mp hc
      exact (digit_fraction d).1
    obtain ⟨hfraction, hend⟩ := span_digits hdigits fun c hc => (hpower c hc).1
    have hpoint : ∀ c ∈ (fractionText (d :: ds) ++ (powerText e ++ rest)).head?, isDigit c = false := by
      rintro c ⟨⟩
      rfl
    obtain ⟨htake, hdrop⟩ := span_digits (isDigit_decimal (n := whole)) hpoint
    rw [fractionText, if_neg (List.cons_ne_nil d ds), List.cons_append] at htake hdrop
    rw [fractionText, if_neg (List.cons_ne_nil d ds), List.cons_append, unsigned?]
    simp only [htake, hdrop, digitsValue_decimal, guard, if_pos (And.intro decimal_ne_nil length_decimal), hfraction,
      hend, map_digitOf]
    exact power?_text (fun e => ⟨negative, whole, d :: ds, e⟩) e hr

lemma exists_number_cons (n : Number) : ∃ c cs, Writer.number n = c :: cs ∧ c ∈ '-' :: "0123456789".toList := by
  rw [number_eq]
  cases n.negative with
  | true => exact ⟨'-', _, rfl, List.mem_cons_self⟩
  | false =>
    cases hn : Writer.decimal n.whole with
    | nil => exact absurd hn decimal_ne_nil
    | cons c cs =>
      have hc : c.isDigit = true := isDigit_decimal c (hn ▸ List.mem_cons_self)
      exact ⟨c, _, rfl, List.mem_cons_of_mem _ (Text.Decimal.mem_of_isDigit hc)⟩

lemma number?_number (n : Number) (hr : Stops rest) : number? (Writer.number n ++ rest) = some (n, rest) := by
  obtain ⟨negative, whole, fraction, e⟩ := n
  rw [number_eq, List.append_assoc, List.append_assoc, List.append_assoc]
  cases negative with
  | true => exact unsigned?_text true whole fraction e hr
  | false =>
    refine (number?_eq_unsigned? fun more => ?_).trans (unsigned?_text false whole fraction e hr)
    exact decimal_append_ne (by decide) whole _ more

end ResumableUpload.Json
