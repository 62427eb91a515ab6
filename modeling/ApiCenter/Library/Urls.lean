import Mathlib.Data.List.DropRight

namespace ApiCenter.Library.Urls

/-- The characters that a URL writes as percent and hexadecimal digits. -/
structure PercentEncodeSet where
  escapes : Char → Bool
  control : ∀ c, c.toNat ≤ 32 → escapes c = true
  hash : escapes '#' = true
  percent : escapes '%' = false
  digit : ("0123456789ABCDEF".toList.all fun c => !escapes c) = true

/-- Those of a path. -/
def pathSet : PercentEncodeSet where
  escapes c := c.toNat ≤ 32 || 127 ≤ c.toNat || "\"#<>?^`\x7b\x7d".toList.contains c
  control c h := by simp [h]
  hash := rfl
  percent := rfl
  digit := rfl

def hexDigit (n : Nat) : Char := "0123456789ABCDEF".toList.getD n '0'

def percentEncodeByte (byte : UInt8) : List Char :=
  ['%', hexDigit (byte.toNat / 16), hexDigit (byte.toNat % 16)]

namespace PercentEncodeSet

variable (set : PercentEncodeSet)

def encodeChar (c : Char) : List Char :=
  if set.escapes c then (String.utf8EncodeChar c).flatMap percentEncodeByte else [c]

def encode (segment : List Char) : List Char := segment.flatMap set.encodeChar

end PercentEncodeSet

/-- What a parser reads: no blank at the end, and no tab or line break. -/
def cleaned (text : List Char) : List Char :=
  (text.rdropWhile (·.toNat ≤ 32)).filter fun c => c ≠ '\t' && c ≠ '\n' && c ≠ '\r'

/-- The path of what follows an origin and a slash. -/
def pathPart (text : List Char) : List Char :=
  (cleaned text).takeWhile fun c => c ≠ '?' && c ≠ '#'

/-- Its query, without the question mark. -/
def queryPart (text : List Char) : List Char :=
  (((cleaned text).takeWhile (· ≠ '#')).dropWhile (· ≠ '?')).drop 1

/-- What separates the segments of a path; a backslash does as well. -/
def isSeparator (c : Char) : Bool := c = '/' || c = '\\'

def lowered (segment : List Char) : List Char := segment.map Char.toLower

/-- The segment stands for where it is. -/
def isSingleDot (segment : List Char) : Bool :=
  [".".toList, "%2e".toList].contains (lowered segment)

/-- The segment stands for the one before. -/
def isDoubleDot (segment : List Char) : Bool :=
  ["..".toList, ".%2e".toList, "%2e.".toList, "%2e%2e".toList].contains (lowered segment)

/-- The path after a segment that others follow. -/
def push (set : PercentEncodeSet) (path : List (List Char)) (segment : List Char) :
    List (List Char) :=
  if isDoubleDot segment then path.dropLast
  else if isSingleDot segment then path
  else path ++ [set.encode segment]

/-- The path after the last segment, which is an empty one where it was made of dots. -/
def pushLast (set : PercentEncodeSet) (path : List (List Char)) (segment : List Char) :
    List (List Char) :=
  if isDoubleDot segment then path.dropLast ++ [[]]
  else if isSingleDot segment then path ++ [[]]
  else path ++ [set.encode segment]

def walk (set : PercentEncodeSet) (path : List (List Char)) : List (List Char) → List (List Char)
  | [] => path
  | [last] => pushLast set path last
  | segment :: next :: rest => walk set (push set path segment) (next :: rest)

/-- The path of a URL whose text is that of a base with the path `base`, a slash and `text`. -/
def resolve (set : PercentEncodeSet) (base : List (List Char)) (text : List Char) :
    List (List Char) :=
  walk set base ((pathPart text).splitOnP isSeparator)

/-- The segment has only characters that stand for themselves. -/
def Plain (set : PercentEncodeSet) (segment : List Char) : Prop :=
  ∀ c ∈ segment, set.escapes c = false ∧ c ≠ '\\'

/-- The segment stands for itself. -/
structure Normal (set : PercentEncodeSet) (segment : List Char) : Prop where
  plain : Plain set segment
  single : isSingleDot segment = false
  double : isDoubleDot segment = false

instance (set : PercentEncodeSet) (segment : List Char) : Decidable (Plain set segment) :=
  decidable_of_iff ((segment.all fun c => !set.escapes c && c != '\\') = true) (by simp [Plain])

instance (set : PercentEncodeSet) (segment : List Char) : Decidable (Normal set segment) :=
  decidable_of_iff
    (Plain set segment ∧ isSingleDot segment = false ∧ isDoubleDot segment = false)
    ⟨fun h => ⟨h.1, h.2.1, h.2.2⟩, fun h => ⟨h.plain, h.single, h.double⟩⟩

variable {set : PercentEncodeSet} {base path : List (List Char)} {segment text : List Char}
  {segments : List (List Char)}

theorem plain_percentEncodeByte (byte : UInt8) : Plain set (percentEncodeByte byte) := by
  have hdigit : ∀ n, set.escapes (hexDigit n) = false ∧ hexDigit n ≠ '\\' := by
    intro n
    have hmem : hexDigit n ∈ "0123456789ABCDEF".toList := by
      unfold hexDigit
      rw [List.getD_eq_getElem?_getD]
      cases hget : ("0123456789ABCDEF".toList)[n]? with
      | none => decide
      | some c => exact List.mem_of_getElem? hget
    refine ⟨by simpa using List.all_eq_true.mp set.digit _ hmem, fun heq => ?_⟩
    rw [heq] at hmem
    revert hmem
    decide
  intro c hc
  simp only [percentEncodeByte, List.mem_cons, List.not_mem_nil, or_false] at hc
  rcases hc with rfl | rfl | rfl
  · exact ⟨set.percent, by decide⟩
  · exact hdigit _
  · exact hdigit _

/-- What is written for a segment stands for itself. -/
theorem plain_encode (h : '\\' ∉ segment) : Plain set (set.encode segment) := by
  intro c hc
  obtain ⟨d, hd, hcd⟩ := List.mem_flatMap.mp hc
  unfold PercentEncodeSet.encodeChar at hcd
  split at hcd
  · obtain ⟨byte, -, hbyte⟩ := List.mem_flatMap.mp hcd
    exact plain_percentEncodeByte byte c hbyte
  · rename_i hplain
    obtain rfl := List.mem_singleton.mp hcd
    exact ⟨by simpa using hplain, fun heq => h (heq ▸ hd)⟩

theorem encode_plain (h : Plain set segment) : set.encode segment = segment := by
  induction segment with
  | nil => rfl
  | cons c rest ih =>
    have hc := (h c List.mem_cons_self).1
    have hrest := ih fun d hd => h d (List.mem_cons_of_mem c hd)
    unfold PercentEncodeSet.encode at hrest ⊢
    rw [List.flatMap_cons, hrest, PercentEncodeSet.encodeChar, if_neg (by simp [hc])]
    rfl

/-- A property of segments that the path keeps, whatever is pushed on it. -/
theorem walk_keeps {P : List Char → Prop} (hempty : P [])
    (hpush : ∀ segment ∈ segments, isSingleDot segment = false → isDoubleDot segment = false →
      P (set.encode segment))
    (h : ∀ s ∈ path, P s) : ∀ s ∈ walk set path segments, P s := by
  induction segments generalizing path with
  | nil => exact h
  | cons segment rest ih =>
    have hdrop : ∀ s ∈ path.dropLast, P s := fun s hs => h s (List.dropLast_subset path hs)
    cases rest with
    | nil =>
      unfold walk pushLast
      intro s hs
      split at hs
      · rcases List.mem_append.mp hs with hs | hs
        · exact hdrop s hs
        · exact List.mem_singleton.mp hs ▸ hempty
      · split at hs
        · rcases List.mem_append.mp hs with hs | hs
          · exact h s hs
          · exact List.mem_singleton.mp hs ▸ hempty
        · rcases List.mem_append.mp hs with hs | hs
          · exact h s hs
          · exact List.mem_singleton.mp hs ▸
              hpush segment List.mem_cons_self (by simp_all) (by simp_all)
    | cons next rest =>
      unfold walk
      refine ih (fun s hs => hpush s (List.mem_cons_of_mem segment hs)) fun s hs => ?_
      unfold push at hs
      split at hs
      · exact hdrop s hs
      · split at hs
        · exact h s hs
        · rcases List.mem_append.mp hs with hs | hs
          · exact h s hs
          · exact List.mem_singleton.mp hs ▸
              hpush segment List.mem_cons_self (by simp_all) (by simp_all)

theorem walk_normal (h : ∀ s ∈ segments, Normal set s) :
    walk set path segments = path ++ segments := by
  induction segments generalizing path with
  | nil => exact (List.append_nil path).symm
  | cons segment rest ih =>
    have hs := h segment List.mem_cons_self
    cases rest with
    | nil => simp [walk, pushLast, hs.single, hs.double, encode_plain hs.plain]
    | cons next rest =>
      unfold walk
      rw [ih fun s hs => h s (List.mem_cons_of_mem segment hs)]
      simp [push, hs.single, hs.double, encode_plain hs.plain]

variable {p q : Char → Bool} {c : Char}

theorem splitOnP_congr (h : ∀ c ∈ text, p c = q c) : text.splitOnP p = text.splitOnP q := by
  induction text with
  | nil => rfl
  | cons c rest ih =>
    rw [List.splitOnP_cons_eq_if_modifyHead, List.splitOnP_cons_eq_if_modifyHead,
      h c List.mem_cons_self, ih fun d hd => h d (List.mem_cons_of_mem c hd)]

theorem mem_modifyHead_cons {s : List Char} (h : s ∈ segments.modifyHead (c :: ·)) :
    s ∈ segments ∨ ∃ t ∈ segments, s = c :: t := by
  cases segments with
  | nil => cases h
  | cons t rest =>
    rcases List.mem_cons.mp h with rfl | h
    · exact .inr ⟨t, List.mem_cons_self, rfl⟩
    · exact .inl (List.mem_cons_of_mem t h)

/-- No separator is in a segment. -/
theorem splitOnP_not_sep (h : segment ∈ text.splitOnP p) (hc : c ∈ segment) : p c = false := by
  induction text generalizing segment with
  | nil =>
    obtain rfl := List.mem_singleton.mp h
    cases hc
  | cons d rest ih =>
    rw [List.splitOnP_cons_eq_if_modifyHead] at h
    split at h
    · rcases List.mem_cons.mp h with rfl | h
      · cases hc
      · exact ih h hc
    · rename_i hd
      rcases mem_modifyHead_cons h with h | ⟨t, ht, rfl⟩
      · exact ih h hc
      · rcases List.mem_cons.mp hc with rfl | hc
        · simpa using hd
        · exact ih ht hc

/-- Every other character is in a segment. -/
theorem exists_mem_splitOnP (hc : c ∈ text) (hp : p c = false) :
    ∃ s ∈ text.splitOnP p, c ∈ s := by
  induction text with
  | nil => cases hc
  | cons d rest ih =>
    rw [List.splitOnP_cons_eq_if_modifyHead]
    obtain ⟨t, ts, hsplit⟩ := List.exists_cons_of_ne_nil (List.splitOnP_ne_nil p rest)
    rw [hsplit] at ih ⊢
    rcases List.mem_cons.mp hc with rfl | hc
    · rw [if_neg (by simp [hp])]
      exact ⟨c :: t, List.mem_cons_self, List.mem_cons_self⟩
    · obtain ⟨s, hs, hcs⟩ := ih hc
      split
      · exact ⟨s, List.mem_cons_of_mem _ hs, hcs⟩
      · rcases List.mem_cons.mp hs with rfl | hs
        · exact ⟨d :: s, List.mem_cons_self, List.mem_cons_of_mem d hcs⟩
        · exact ⟨s, List.mem_cons_of_mem _ hs, hcs⟩

/-- What comes before a text that has no blanks is kept. -/
theorem cleaned_append {rest : List Char} (h : ∀ c ∈ text, 32 < c.toNat) :
    cleaned (text ++ rest) = text ++ cleaned rest := by
  have htrim : (text ++ rest).rdropWhile (·.toNat ≤ 32) =
      text ++ rest.rdropWhile (·.toNat ≤ 32) := by
    have hall : text.reverse.dropWhile (fun c => decide (c.toNat ≤ 32)) = text.reverse := by
      rw [List.dropWhile_eq_self_iff]
      intro hl
      have hmem := List.mem_reverse.mp (List.getElem_mem hl)
      have := h _ hmem
      simpa using this
    unfold List.rdropWhile
    rw [List.reverse_append, List.dropWhile_append]
    split
    · rename_i hempty
      rw [hall, List.isEmpty_iff.mp hempty]
      simp
    · simp
  have hfilter : text.filter (fun c => c ≠ '\t' && c ≠ '\n' && c ≠ '\r') = text := by
    refine List.filter_eq_self.mpr fun c hc => ?_
    have hlt := h c hc
    have hne : ∀ d : Char, d.toNat ≤ 32 → c ≠ d := by
      intro d hd heq
      subst heq
      omega
    simp [hne '\t' (by decide), hne '\n' (by decide), hne '\r' (by decide)]
  unfold cleaned
  rw [htrim, List.filter_append, hfilter]

/-- The path of a text the characters of which stand for themselves is what it has before a
question mark. -/
theorem pathPart_eq
    (h : ∀ c ∈ text.takeWhile (· ≠ '?'), 32 < c.toNat ∧ c ≠ '#') :
    pathPart text = text.takeWhile (· ≠ '?') := by
  have hquestion : ∀ rest : List Char,
      (cleaned ('?' :: rest)).takeWhile (fun c => c ≠ '?' && c ≠ '#') = [] := by
    intro rest
    have hcleaned : cleaned ('?' :: rest) = ['?'] ++ cleaned rest :=
      cleaned_append (List.forall_mem_singleton.mpr (by decide))
    rw [hcleaned]
    rfl
  have hrest : (cleaned (text.dropWhile (· ≠ '?'))).takeWhile
      (fun c => c ≠ '?' && c ≠ '#') = [] := by
    cases hdrop : text.dropWhile (· ≠ '?') with
    | nil => rfl
    | cons d rest =>
      have hd := List.head_dropWhile_not (fun c => decide (c ≠ '?')) (l := text)
        (by rw [hdrop]; exact List.cons_ne_nil d rest)
      simp only [hdrop, List.head_cons] at hd
      obtain rfl : d = '?' := by simpa using hd
      exact hquestion rest
  have htext := List.takeWhile_append_dropWhile (p := fun c => decide (c ≠ '?')) (l := text)
  unfold pathPart
  rw [← htext, cleaned_append fun c hc => (h c hc).1, htext,
    List.takeWhile_append_of_pos, hrest, List.append_nil]
  intro c hc
  have hne := List.mem_takeWhile_imp hc
  simpa [(h c hc).2] using hne

/-- Segments that have only characters which stand for themselves are read as they are. -/
theorem segments_plain
    (h : ∀ s ∈ (text.takeWhile (· ≠ '?')).splitOn '/', Plain set s) :
    (pathPart text).splitOnP isSeparator = (text.takeWhile (· ≠ '?')).splitOn '/' := by
  have hchar : ∀ c ∈ text.takeWhile (· ≠ '?'), c = '/' ∨ set.escapes c = false ∧ c ≠ '\\' := by
    intro c hc
    by_cases hslash : c = '/'
    · exact .inl hslash
    · obtain ⟨s, hs, hcs⟩ := exists_mem_splitOnP (p := (· == '/')) hc (by simp [hslash])
      exact .inr (h s (by rwa [List.splitOn_eq_splitOnP]) c hcs)
  have hvisible : ∀ c ∈ text.takeWhile (· ≠ '?'), 32 < c.toNat ∧ c ≠ '#' := by
    intro c hc
    rcases hchar c hc with rfl | ⟨hplain, -⟩
    · decide
    · constructor
      · by_contra hle
        rw [set.control c (by omega)] at hplain
        cases hplain
      · intro heq
        rw [heq, set.hash] at hplain
        cases hplain
  rw [pathPart_eq hvisible, List.splitOn_eq_splitOnP]
  refine splitOnP_congr fun c hc => ?_
  rcases hchar c hc with rfl | ⟨-, hne⟩
  · rfl
  · by_cases hslash : c = '/' <;> simp [isSeparator, hslash, hne]

/-- The path of a URL is that of its base and then the path asked for exactly when every segment
of that path stands for itself. -/
theorem resolve_eq_append_iff (hbase : ∀ s ∈ base, Normal set s) :
    resolve set base text = base ++ (text.takeWhile (· ≠ '?')).splitOn '/' ↔
      ∀ s ∈ (text.takeWhile (· ≠ '?')).splitOn '/', Normal set s := by
  constructor
  · intro h s hs
    have hkept : ∀ {P : List Char → Prop}, P [] → (∀ s ∈ base, P s) →
        (∀ s ∈ (pathPart text).splitOnP isSeparator, isSingleDot s = false →
          isDoubleDot s = false → P (set.encode s)) →
        ∀ s ∈ (text.takeWhile (· ≠ '?')).splitOn '/', P s := by
      intro P hempty hb hpush s hs
      refine walk_keeps hempty hpush hb s ?_
      rw [resolve] at h
      rw [h]
      exact List.mem_append_right base hs
    have hplain : ∀ s ∈ (text.takeWhile (· ≠ '?')).splitOn '/', Plain set s := by
      refine hkept nofun (fun s hs => (hbase s hs).plain) fun s hs _ _ => plain_encode fun hc => ?_
      exact absurd (splitOnP_not_sep hs hc) (by decide)
    have hdots := hkept (P := fun s => isSingleDot s = false ∧ isDoubleDot s = false)
      ⟨rfl, rfl⟩ (fun s hs => ⟨(hbase s hs).single, (hbase s hs).double⟩)
      (fun s hs h1 h2 => by
        rw [segments_plain hplain] at hs
        rw [encode_plain (hplain s hs)]
        exact ⟨h1, h2⟩)
    exact ⟨hplain s hs, (hdots s hs).1, (hdots s hs).2⟩
  · intro h
    rw [resolve, segments_plain fun s hs => (h s hs).plain]
    exact walk_normal h

end ApiCenter.Library.Urls
