import Mathlib.Data.List.Forall2
import Mathlib.Data.List.TakeWhile
import Mathlib.Data.Nat.Init

namespace ApiCenter.Library.JsonText

/-- The hexadecimal digit of a number below 16. -/
def hexDigit (n : Nat) : Char := if n < 10 then Char.ofNat (48 + n) else Char.ofNat (87 + n)

def hexValue (c : Char) : Option Nat :=
  if '0' ≤ c ∧ c ≤ '9' then some (c.toNat - 48)
  else if 'a' ≤ c ∧ c ≤ 'f' then some (c.toNat - 87)
  else if 'A' ≤ c ∧ c ≤ 'F' then some (c.toNat - 55)
  else none

/-- The escapes of one letter that a writer uses, each with the character it stands for. -/
def shortEscapes : List (Char × Char) :=
  [('"', '"'), ('\\', '\\'), ('b', '\x08'), ('f', '\x0c'), ('n', '\n'), ('r', '\r'), ('t', '\t')]

/-- A character inside a string literal. -/
def escape (c : Char) : List Char :=
  match shortEscapes.find? (·.2 == c) with
  | some (letter, _) => ['\\', letter]
  | none =>
    if c.toNat < 32 then ['\\', 'u', '0', '0', hexDigit (c.toNat / 16), hexDigit (c.toNat % 16)]
    else [c]

def quote (cs : List Char) : List Char := '"' :: (cs.flatMap escape ++ ['"'])

def unescape (letter : Char) : Option Char :=
  if letter = '/' then some '/' else shortEscapes.lookup letter

def readHex : List Char → Option (Nat × List Char)
  | a :: b :: c :: d :: rest => do
    let a ← hexValue a
    let b ← hexValue b
    let c ← hexValue c
    let d ← hexValue d
    return (((a * 16 + b) * 16 + c) * 16 + d, rest)
  | _ => none

/-- What follows `\u`. Half of a surrogate pair is no character. -/
def readUnicode (s : List Char) : Option (Char × List Char) := do
  let (high, s) ← readHex s
  if 0xD800 ≤ high ∧ high < 0xDC00 then
    match s with
    | '\\' :: 'u' :: s => do
      let (low, s) ← readHex s
      if 0xDC00 ≤ low ∧ low < 0xE000 then
        return (Char.ofNat (0x10000 + (high - 0xD800) * 0x400 + (low - 0xDC00)), s)
      else none
    | _ => none
  else if 0xDC00 ≤ high ∧ high < 0xE000 then none
  else return (Char.ofNat high, s)

/-- The next character of a string literal. -/
def readChar : List Char → Option (Char × List Char)
  | '\\' :: 'u' :: s => readUnicode s
  | '\\' :: letter :: s => (unescape letter).map fun c => (c, s)
  | c :: s => if c.toNat < 32 ∨ c = '"' ∨ c = '\\' then none else some (c, s)
  | [] => none

/-- A string literal after its opening quote; `fuel` bounds the characters read. -/
def readQuoted : Nat → List Char → Option (List Char × List Char)
  | _, '"' :: s => some ([], s)
  | fuel + 1, s => do
    let (c, s) ← readChar s
    let (cs, s) ← readQuoted fuel s
    return (c :: cs, s)
  | 0, _ => none

def isSpace (c : Char) : Bool := c == ' ' || c == '\t' || c == '\n' || c == '\r'

def skipSpace (s : List Char) : List Char := s.dropWhile isSpace

def isNumberChar (c : Char) : Bool :=
  c.isDigit || c == '-' || c == '+' || c == '.' || c == 'e' || c == 'E'

def isExponent : List Char → Bool
  | [] => true
  | 'e' :: s | 'E' :: s =>
    match s with
    | '+' :: c :: s | '-' :: c :: s => c.isDigit && s.all Char.isDigit
    | c :: s => c.isDigit && s.all Char.isDigit
    | [] => false
  | _ => false

def isFraction : List Char → Bool
  | '.' :: c :: s => c.isDigit && isExponent (s.dropWhile Char.isDigit)
  | s => isExponent s

def isUnsigned : List Char → Bool
  | '0' :: s => isFraction s
  | c :: s => c.isDigit && isFraction (s.dropWhile Char.isDigit)
  | [] => false

/-- The number literals: no leading zeros, digits on both sides of a point. -/
def isNumber : List Char → Bool
  | '-' :: s => isUnsigned s
  | s => isUnsigned s

/-- A number literal takes every character that could belong to one. -/
def readNumber (s : List Char) : Option (List Char × List Char) :=
  if isNumber (s.takeWhile isNumberChar) then
    some (s.takeWhile isNumberChar, s.dropWhile isNumberChar)
  else none

variable {α β : Type}

/-- Items with a comma between them. -/
def separated (texts : List (List Char)) : List Char := List.intercalate [','] texts

/-- At least one item, up to the closing bracket. -/
def readItems (read : List Char → Option (α × List Char)) (close : Char) :
    Nat → List Char → Option (List α × List Char)
  | 0, _ => none
  | fuel + 1, s => do
    let (a, s) ← read s
    match skipSpace s with
    | c :: s =>
      if c = close then return ([a], s)
      else if c = ',' then
        let (as, s) ← readItems read close fuel s
        return (a :: as, s)
      else none
    | [] => none

/-- What follows an opening bracket. -/
def readSequence (read : List Char → Option (α × List Char)) (close : Char) (s : List Char) :
    Option (List α × List Char) :=
  match skipSpace s with
  | c :: rest => if c = close then some ([], rest) else readItems read close s.length s
  | [] => none

def member (key value : List Char) : List Char := quote key ++ ':' :: value

/-- A key, a colon and a value. -/
def readMember (read : List Char → Option (α × List Char)) (s : List Char) :
    Option ((List Char × α) × List Char) :=
  match skipSpace s with
  | '"' :: s => do
    let (key, s) ← readQuoted s.length s
    match skipSpace s with
    | ':' :: s =>
      let (a, s) ← read s
      return ((key, a), s)
    | _ => none
  | _ => none

theorem hexValue_hexDigit : ∀ n < 16, hexValue (hexDigit n) = some n := by decide

theorem unescape_shortEscapes :
    ∀ p ∈ shortEscapes, p.1 ≠ 'u' ∧ unescape p.1 = some p.2 := by decide

theorem readChar_letter {letter c : Char} (hu : letter ≠ 'u') (h : unescape letter = some c)
    (rest : List Char) : readChar ('\\' :: letter :: rest) = some (c, rest) := by
  unfold readChar
  split
  · rename_i heq
    injection heq with _ heq
    injection heq with heq _
    exact absurd heq hu
  · rename_i heq
    injection heq with _ heq
    injection heq with hl hs
    rw [← hl, ← hs, h]
    rfl
  · rename_i hnot heq
    injection heq with hc hs
    exact absurd hs.symm (hnot _ _ hc.symm)
  · rename_i heq
    cases heq

theorem readChar_control {c : Char} (h : c.toNat < 32) (rest : List Char) :
    readChar ('\\' :: 'u' :: '0' :: '0' :: hexDigit (c.toNat / 16) :: hexDigit (c.toNat % 16) ::
      rest) = some (c, rest) := by
  have hhigh := hexValue_hexDigit (c.toNat / 16) (by omega)
  have hlow := hexValue_hexDigit (c.toNat % 16) (by omega)
  have hsum : c.toNat / 16 * 16 + c.toNat % 16 = c.toNat := by omega
  have hhex : readHex ('0' :: '0' :: hexDigit (c.toNat / 16) :: hexDigit (c.toNat % 16) :: rest) =
      some (c.toNat, rest) := by
    simp only [readHex, hhigh, hlow, show hexValue '0' = some 0 from rfl]
    simp [hsum]
  have hsurrogate : ¬ (0xD800 ≤ c.toNat ∧ c.toNat < 0xDC00) := by omega
  have hlone : ¬ (0xDC00 ≤ c.toNat ∧ c.toNat < 0xE000) := by omega
  simp [readChar, readUnicode, hhex, hsurrogate, hlone]

theorem readChar_plain {c : Char} (hc : ¬ c.toNat < 32) (hq : c ≠ '"') (hb : c ≠ '\\')
    (rest : List Char) : readChar (c :: rest) = some (c, rest) := by
  unfold readChar
  split
  · rename_i heq
    injection heq with heq _
    exact absurd heq hb
  · rename_i heq
    injection heq with heq _
    exact absurd heq hb
  · rename_i heq
    injection heq with h hs
    subst h
    subst hs
    simp [hc, hq, hb]
  · rename_i heq
    cases heq

/-- What a character is written as reads back as that character. -/
theorem readChar_escape (c : Char) (rest : List Char) :
    readChar (escape c ++ rest) = some (c, rest) := by
  unfold escape
  cases hf : shortEscapes.find? (·.2 == c) with
  | some p =>
    have hc : p.2 = c := by simpa using List.find?_some hf
    obtain ⟨hu, hp⟩ := unescape_shortEscapes p (List.mem_of_find?_eq_some hf)
    rw [hc] at hp
    exact readChar_letter hu hp rest
  | none =>
    have hnone : ∀ p ∈ shortEscapes, p.2 ≠ c := by simpa using hf
    have hq : c ≠ '"' := (hnone ('"', '"') (by decide)).symm
    have hb : c ≠ '\\' := (hnone ('\\', '\\') (by decide)).symm
    dsimp only
    split
    · rename_i hc
      exact readChar_control hc rest
    · rename_i hc
      exact readChar_plain hc hq hb rest

/-- A literal's characters never start with the quote that closes it. -/
theorem escape_ne_quote (c : Char) : ∃ d ds, escape c = d :: ds ∧ d ≠ '"' := by
  unfold escape
  cases hf : shortEscapes.find? (·.2 == c) with
  | some p => exact ⟨_, _, rfl, by decide⟩
  | none =>
    have hq : c ≠ '"' := by
      have hnone : ∀ p ∈ shortEscapes, p.2 ≠ c := by simpa using hf
      exact (hnone ('"', '"') (by decide)).symm
    dsimp only
    split
    · exact ⟨_, _, rfl, by decide⟩
    · exact ⟨c, [], rfl, hq⟩

theorem length_le_escaped (cs : List Char) : cs.length ≤ (cs.flatMap escape).length := by
  induction cs with
  | nil => simp
  | cons c cs ih =>
    obtain ⟨d, ds, he, -⟩ := escape_ne_quote c
    rw [List.flatMap_cons, List.length_append, he]
    simp only [List.length_cons]
    omega

theorem readQuoted_step {fuel : Nat} {d : Char} (hd : d ≠ '"') (ds : List Char) :
    readQuoted (fuel + 1) (d :: ds) = (do
      let (c, s) ← readChar (d :: ds)
      let (cs, s) ← readQuoted fuel s
      return (c :: cs, s)) := by
  rw [readQuoted]
  intro s heq
  injection heq with heq _
  exact hd heq

theorem readQuoted_escaped (cs rest : List Char) (fuel : Nat) (h : cs.length ≤ fuel) :
    readQuoted fuel (cs.flatMap escape ++ '"' :: rest) = some (cs, rest) := by
  induction cs generalizing fuel with
  | nil => cases fuel <;> rfl
  | cons c cs ih =>
    cases fuel with
    | zero => simp at h
    | succ fuel =>
      have hrest := ih fuel (by simpa using h)
      obtain ⟨d, ds, he, hd⟩ := escape_ne_quote c
      have hchar := readChar_escape c (cs.flatMap escape ++ '"' :: rest)
      rw [List.flatMap_cons, List.append_assoc, he, List.cons_append, readQuoted_step hd]
      rw [he, List.cons_append] at hchar
      simp [hchar, hrest]

/-- A text that does not go on with a number. -/
def Stops (s : List Char) : Prop := ∀ c ∈ s.head?, isNumberChar c = false

theorem stops_nil : Stops [] := nofun

theorem stops_cons {c : Char} (h : isNumberChar c = false) (s : List Char) : Stops (c :: s) := by
  intro d hd
  cases hd
  exact h

theorem isNumberChar_of_isDigit {c : Char} (h : c.isDigit = true) : isNumberChar c = true := by
  simp [isNumberChar, h]

theorem digits_numberChars {s : List Char} (h : s.all Char.isDigit = true) :
    ∀ c ∈ s, isNumberChar c = true := by
  intro c hc
  exact isNumberChar_of_isDigit (List.all_eq_true.mp h c hc)

theorem numberChars_of_dropWhile {s : List Char}
    (h : ∀ c ∈ s.dropWhile Char.isDigit, isNumberChar c = true) :
    ∀ c ∈ s, isNumberChar c = true := by
  intro c hc
  rw [← List.takeWhile_append_dropWhile (p := Char.isDigit) (l := s)] at hc
  rcases List.mem_append.mp hc with htake | hdrop
  · exact isNumberChar_of_isDigit (List.mem_takeWhile_imp htake)
  · exact h c hdrop

theorem digitRun_chars {c : Char} {s : List Char} (h : (c.isDigit && s.all Char.isDigit) = true) :
    ∀ d ∈ c :: s, isNumberChar d = true := by
  rw [Bool.and_eq_true] at h
  exact List.forall_mem_cons.mpr ⟨isNumberChar_of_isDigit h.1, digits_numberChars h.2⟩

theorem isExponent_chars {s : List Char} (h : isExponent s = true) :
    ∀ c ∈ s, isNumberChar c = true := by
  unfold isExponent at h
  split at h
  case h_1 => nofun
  case h_4 => cases h
  -- the letter comes in either case
  all_goals
    refine List.forall_mem_cons.mpr ⟨by decide, ?_⟩
    split at h
    · exact List.forall_mem_cons.mpr ⟨by decide, digitRun_chars h⟩
    · exact List.forall_mem_cons.mpr ⟨by decide, digitRun_chars h⟩
    · exact digitRun_chars h
    · cases h

theorem isFraction_chars {s : List Char} (h : isFraction s = true) :
    ∀ c ∈ s, isNumberChar c = true := by
  unfold isFraction at h
  split at h
  · rw [Bool.and_eq_true] at h
    simp only [List.forall_mem_cons]
    exact ⟨by decide, isNumberChar_of_isDigit h.1,
      numberChars_of_dropWhile (isExponent_chars h.2)⟩
  · exact isExponent_chars h

theorem isUnsigned_chars {s : List Char} (h : isUnsigned s = true) :
    ∀ c ∈ s, isNumberChar c = true := by
  unfold isUnsigned at h
  split at h
  · exact List.forall_mem_cons.mpr ⟨by decide, isFraction_chars h⟩
  · rw [Bool.and_eq_true] at h
    exact List.forall_mem_cons.mpr ⟨isNumberChar_of_isDigit h.1,
      numberChars_of_dropWhile (isFraction_chars h.2)⟩
  · cases h

theorem isNumber_chars {s : List Char} (h : isNumber s = true) :
    ∀ c ∈ s, isNumberChar c = true := by
  unfold isNumber at h
  split at h
  · exact List.forall_mem_cons.mpr ⟨by decide, isUnsigned_chars h⟩
  · exact isUnsigned_chars h

theorem readNumber_append {text rest : List Char} (h : isNumber text = true) (hr : Stops rest) :
    readNumber (text ++ rest) = some (text, rest) := by
  have htake : (text ++ rest).takeWhile isNumberChar = text := by
    rw [List.takeWhile_append_of_pos (isNumber_chars h)]
    cases rest with
    | nil => simp
    | cons c rest => simp [hr c rfl]
  have hdrop : (text ++ rest).dropWhile isNumberChar = rest := by
    rw [List.dropWhile_append_of_pos (isNumber_chars h)]
    cases rest with
    | nil => rfl
    | cons c rest => simp [hr c rfl]
  simp [readNumber, htake, hdrop, h]

/-- A text that starts with something other than a blank. -/
def Inked (s : List Char) : Prop := ∃ c rest, s = c :: rest ∧ isSpace c = false

theorem skipSpace_of_inked {s : List Char} (h : Inked s) : skipSpace s = s := by
  obtain ⟨c, rest, rfl, hc⟩ := h
  simp [skipSpace, hc]

theorem inked_cons {c : Char} (h : isSpace c = false) (s : List Char) : Inked (c :: s) :=
  ⟨c, s, rfl, h⟩

theorem Inked.append {s : List Char} (h : Inked s) (rest : List Char) : Inked (s ++ rest) := by
  obtain ⟨c, tail, rfl, hc⟩ := h
  exact ⟨c, tail ++ rest, rfl, hc⟩

/-- `read` takes the text of an item off the front, whatever ends it. -/
def Reads (read : List Char → Option (α × List Char)) (text : List Char) (a : α) : Prop :=
  ∀ rest, Stops rest → read (text ++ rest) = some (a, rest)

/-- The brackets that end a sequence. -/
def Closes (close : Char) : Prop :=
  isNumberChar close = false ∧ isSpace close = false ∧ close ≠ ','

theorem separated_cons_cons (t u : List Char) (ts : List (List Char)) :
    separated (t :: u :: ts) = t ++ ',' :: separated (u :: ts) := by
  simp [separated, List.intercalate_cons_cons]

theorem length_le_separated (texts : List (List Char)) (h : ∀ t ∈ texts, t ≠ []) :
    texts.length ≤ (separated texts).length := by
  induction texts with
  | nil => simp
  | cons t ts ih =>
    have ht : 0 < t.length := List.length_pos_iff.mpr (h t (List.mem_cons_self ..))
    have hts := ih fun u hu => h u (List.mem_cons_of_mem _ hu)
    cases ts with
    | nil =>
      simp only [separated, List.intercalate_singleton, List.length_cons, List.length_nil]
      omega
    | cons u us =>
      rw [separated_cons_cons]
      simp only [List.length_append, List.length_cons] at hts ⊢
      omega

theorem length_le_separated_of_mem {t : List Char} {texts : List (List Char)} (h : t ∈ texts) :
    t.length ≤ (separated texts).length := by
  induction texts with
  | nil => cases h
  | cons u us ih =>
    cases us with
    | nil =>
      obtain rfl := List.mem_singleton.mp h
      simp [separated]
    | cons w ws =>
      rw [separated_cons_cons, List.length_append, List.length_cons]
      rcases List.mem_cons.mp h with rfl | hmem
      · omega
      · have := ih hmem
        omega

theorem readItems_separated {read : List Char → Option (α × List Char)} {close : Char}
    (hc : Closes close) {texts : List (List Char)} {as : List α}
    (h : List.Forall₂ (Reads read) texts as) (hne : texts ≠ []) (rest : List Char) (fuel : Nat)
    (hf : texts.length ≤ fuel) :
    readItems read close fuel (separated texts ++ close :: rest) = some (as, rest) := by
  obtain ⟨hnumber, hspace, hcomma⟩ := hc
  induction h generalizing fuel with
  | nil => exact absurd rfl hne
  | @cons t a ts as hta htas ih =>
    cases fuel with
    | zero => simp at hf
    | succ fuel =>
      cases htas with
      | nil =>
        have hread := hta (close :: rest) (stops_cons hnumber rest)
        have hskip := skipSpace_of_inked (inked_cons hspace rest)
        simp [separated, readItems, hread, hskip]
      | @cons u b us bs hub husbs =>
        have htail := ih (by simp) fuel (by simpa using hf)
        have hread := hta (',' :: (separated (u :: us) ++ close :: rest))
          (stops_cons (by decide) _)
        have hskip := skipSpace_of_inked (inked_cons (c := ',') (by decide)
          (separated (u :: us) ++ close :: rest))
        rw [separated_cons_cons, List.append_assoc, List.cons_append]
        simp [readItems, hread, hskip, hcomma.symm, htail]

/-- Items that are written with commas between them are read back in their order. -/
theorem readSequence_separated {read : List Char → Option (α × List Char)} {close : Char}
    (hc : Closes close) {texts : List (List Char)} {as : List α}
    (h : List.Forall₂ (Reads read) texts as)
    (hfirst : ∀ t ∈ texts, ∃ c s, t = c :: s ∧ isSpace c = false ∧ c ≠ close)
    (rest : List Char) :
    readSequence read close (separated texts ++ close :: rest) = some (as, rest) := by
  cases h with
  | nil =>
    have hskip := skipSpace_of_inked (inked_cons hc.2.1 rest)
    simp [separated, readSequence, hskip]
  | @cons t a ts as hta htas =>
    obtain ⟨c, s, rfl, hspace, hclose⟩ := hfirst t (List.mem_cons_self ..)
    have hhead : ∃ s', separated ((c :: s) :: ts) ++ close :: rest = c :: s' := by
      cases ts with
      | nil => exact ⟨s ++ close :: rest, by simp [separated]⟩
      | cons u us => exact ⟨_, by rw [separated_cons_cons]; simp; rfl⟩
    have hlength : ((c :: s) :: ts).length ≤
        (separated ((c :: s) :: ts) ++ close :: rest).length := by
      have hne : ∀ t ∈ (c :: s) :: ts, t ≠ [] := by
        intro t ht
        obtain ⟨d, s', rfl, -, -⟩ := hfirst t ht
        exact List.cons_ne_nil _ _
      have := length_le_separated _ hne
      simp only [List.length_append]
      omega
    have hitems := readItems_separated hc (.cons hta htas) (by simp) rest _ hlength
    obtain ⟨s', hs'⟩ := hhead
    rw [hs'] at hitems ⊢
    have hskip := skipSpace_of_inked (inked_cons hspace s')
    simp only [readSequence, hskip, hclose, if_false]
    exact hitems

theorem readMember_member {read : List Char → Option (α × List Char)} {text : List Char} {a : α}
    (h : Reads read text a) (key : List Char) :
    Reads (readMember read) (member key text) (key, a) := by
  intro rest hrest
  have hquoted : readQuoted (key.flatMap escape ++ '"' :: ':' :: (text ++ rest)).length
      (key.flatMap escape ++ '"' :: ':' :: (text ++ rest)) =
        some (key, ':' :: (text ++ rest)) := by
    apply readQuoted_escaped
    have := length_le_escaped key
    simp only [List.length_append]
    omega
  have hopen := skipSpace_of_inked (inked_cons (c := '"') (by decide)
    (key.flatMap escape ++ '"' :: ':' :: (text ++ rest)))
  have hcolon := skipSpace_of_inked (inked_cons (c := ':') (by decide) (text ++ rest))
  have hread := h rest hrest
  simp only [member, quote, List.cons_append, List.append_assoc, List.nil_append, readMember, hopen,
    hquoted, hcolon, hread, Option.bind_eq_bind, Option.bind_some, Option.pure_def]

end ApiCenter.Library.JsonText
