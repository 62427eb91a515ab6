import ApiCenter.Model.JsonText

namespace ApiCenter
open Library.JsonText

namespace Json

mutual

/-- The values a program can hold: numbers have the text of a number, and no object has a key
twice. -/
def Proper : Json → Prop
  | .null | .bool _ | .string _ => True
  | .number text => isNumber text.toList = true
  | .array items => ItemsProper items
  | .object fields => (fields.map Prod.fst).Nodup ∧ FieldsProper fields

def ItemsProper : List Json → Prop
  | [] => True
  | item :: items => item.Proper ∧ ItemsProper items

def FieldsProper : List (String × Json) → Prop
  | [] => True
  | (_, value) :: fields => value.Proper ∧ FieldsProper fields

end

theorem itemsProper_iff {items : List Json} : ItemsProper items ↔ ∀ item ∈ items, item.Proper := by
  induction items with
  | nil => simp [ItemsProper]
  | cons item items ih => simp [ItemsProper, ih]

theorem fieldsProper_iff {fields : List (String × Json)} :
    FieldsProper fields ↔ ∀ field ∈ fields, field.2.Proper := by
  induction fields with
  | nil => simp [FieldsProper]
  | cons field fields ih => simp [FieldsProper, ih]

theorem proper_object_iff {fields : JsonObject} : (Json.object fields).Proper ↔
    (fields.map Prod.fst).Nodup ∧ ∀ field ∈ fields, field.2.Proper := by
  rw [Proper, fieldsProper_iff]

end Json

namespace Proofs.JsonRoundTrip
open Json

theorem ofMembers_fold (fields : JsonObject) (before : JsonObject)
    (h : ((before ++ fields).map Prod.fst).Nodup) :
    (fields.map fun field => (field.1.toList, field.2)).foldl (fun fields m =>
      Library.Fields.assign fields (String.ofList m.1) m.2) before = before ++ fields := by
  induction fields generalizing before with
  | nil => simp
  | cons field fields ih =>
    obtain ⟨key, value⟩ := field
    have hfresh : key ∉ before.map Prod.fst := by
      rw [List.map_append, List.nodup_append] at h
      intro hmem
      exact h.2.2 key hmem key (by simp) rfl
    have hnext : (((before ++ [(key, value)]) ++ fields).map Prod.fst).Nodup := by
      simpa using h
    rw [List.map_cons, List.foldl_cons]
    rw [String.ofList_toList, Library.Fields.assign_of_notMem hfresh, ih _ hnext]
    simp

/-- Distinct keys keep their order. -/
theorem ofMembers_of_nodup {fields : JsonObject} (h : (fields.map Prod.fst).Nodup) :
    ofMembers (fields.map fun field => (field.1.toList, field.2)) = fields := by
  unfold ofMembers
  simpa using ofMembers_fold fields [] (by simpa using h)

theorem number_head {text : List Char} (h : isNumber text = true) :
    ∃ c s, text = c :: s ∧ isNumberChar c = true := by
  cases text with
  | nil => cases h
  | cons c s => exact ⟨c, s, rfl, isNumber_chars h c (List.mem_cons_self ..)⟩

/-- Blanks, brackets and the first characters of the other values. -/
def otherChars : List Char :=
  ['n', 't', 'f', '"', '[', '\x7b', ']', '\x7d', ' ', '\t', '\n', '\r']

theorem otherChars_not_number : (otherChars.all fun c => !isNumberChar c) = true := rfl

theorem ne_of_numberChar {c d : Char} (hc : isNumberChar c = true) (hd : d ∈ otherChars) :
    c ≠ d := by
  intro heq
  subst heq
  have hnot := List.all_eq_true.mp otherChars_not_number c hd
  rw [hc] at hnot
  cases hnot

theorem numberChar_not_space {c : Char} (hc : isNumberChar c = true) : isSpace c = false := by
  have hspace := ne_of_numberChar (d := ' ') hc (by decide)
  have htab := ne_of_numberChar (d := '\t') hc (by decide)
  have hline := ne_of_numberChar (d := '\n') hc (by decide)
  have hreturn := ne_of_numberChar (d := '\r') hc (by decide)
  simp [isSpace, hspace, htab, hline, hreturn]

/-- A text starts with neither a blank nor a closing bracket. -/
theorem write_head (j : Json) (h : j.Proper) :
    ∃ c s, j.write = c :: s ∧ isSpace c = false ∧ c ≠ ']' ∧ c ≠ '\x7d' := by
  cases j with
  | null => exact ⟨_, _, rfl, by decide⟩
  | bool b => cases b <;> exact ⟨_, _, rfl, by decide⟩
  | number text =>
    obtain ⟨c, s, hcs, hc⟩ := number_head h
    exact ⟨c, s, hcs, numberChar_not_space hc, ne_of_numberChar hc (by decide),
      ne_of_numberChar hc (by decide)⟩
  | string s => exact ⟨_, _, rfl, by decide⟩
  | array items => exact ⟨_, _, rfl, by decide⟩
  | object fields => exact ⟨_, _, rfl, by decide⟩

theorem readValue_number {text : List Char} (h : isNumber text = true) (fuel : Nat)
    {rest : List Char} (hr : Stops rest) :
    readValue (fuel + 1) (text ++ rest) = some (.number (String.ofList text), rest) := by
  have hread := readNumber_append h hr
  obtain ⟨c, s, rfl, hc⟩ := number_head h
  have hskip := skipSpace_of_inked (inked_cons (numberChar_not_space hc) (s ++ rest))
  rw [List.cons_append] at hread ⊢
  unfold readValue
  rw [hskip]
  split
  case h_7 => rw [hread]; rfl
  all_goals
    rename_i heq
    injection heq with heq _
    exact absurd heq (ne_of_numberChar hc (by decide))

theorem readValue_string (s : String) (fuel : Nat) (rest : List Char) :
    readValue (fuel + 1) (quote s.toList ++ rest) = some (.string s, rest) := by
  have hquoted : readQuoted (s.toList.flatMap escape ++ '"' :: rest).length
      (s.toList.flatMap escape ++ '"' :: rest) = some (s.toList, rest) := by
    apply readQuoted_escaped
    have := length_le_escaped s.toList
    simp only [List.length_append]
    omega
  have hskip := skipSpace_of_inked (inked_cons (c := '"') (by decide)
    (s.toList.flatMap escape ++ '"' :: rest))
  have hquote : quote s.toList ++ rest = '"' :: (s.toList.flatMap escape ++ '"' :: rest) := by
    simp [quote]
  rw [hquote]
  unfold readValue
  rw [hskip]
  simp only [hquoted, Option.map_some, String.ofList_toList]

theorem closes_array : Closes ']' := ⟨rfl, rfl, by decide⟩

theorem closes_object : Closes '\x7d' := ⟨rfl, rfl, by decide⟩

/-- The readers of the values inside an array or an object, one level down. -/
def ReadsBack (fuel : Nat) (j : Json) : Prop := Reads (readValue fuel) j.write j

theorem readValue_array {items : List Json} {fuel : Nat} (hp : ItemsProper items)
    (h : ∀ item ∈ items, ReadsBack fuel item) : ReadsBack (fuel + 1) (.array items) := by
  intro rest _
  have hreads : List.Forall₂ (Reads (readValue fuel)) (writeItems items) items := by
    clear hp
    induction items with
    | nil => exact .nil
    | cons item items ih =>
      exact .cons (h item (List.mem_cons_self ..))
        (ih fun item hi => h item (List.mem_cons_of_mem _ hi))
  have hfirst : ∀ t ∈ writeItems items, ∃ c s, t = c :: s ∧ isSpace c = false ∧ c ≠ ']' := by
    clear hreads h
    induction items with
    | nil => nofun
    | cons item items ih =>
      intro t ht
      rcases List.mem_cons.mp ht with rfl | ht
      · obtain ⟨c, s, hcs, hspace, hclose, -⟩ := write_head item hp.1
        exact ⟨c, s, hcs, hspace, hclose⟩
      · exact ih hp.2 t ht
  have hsequence := readSequence_separated closes_array hreads hfirst rest
  have hskip := skipSpace_of_inked (inked_cons (c := '[') (by decide)
    (separated (writeItems items) ++ ']' :: rest))
  simp only [write, List.cons_append, List.append_assoc, List.nil_append]
  unfold readValue
  rw [hskip]
  simp only [hsequence, Option.map_some]

theorem readValue_object {fields : JsonObject} {fuel : Nat} (hn : (fields.map Prod.fst).Nodup)
    (h : ∀ field ∈ fields, ReadsBack fuel field.2) : ReadsBack (fuel + 1) (.object fields) := by
  intro rest _
  have hreads : List.Forall₂ (Reads (readMember (readValue fuel))) (writeFields fields)
      (fields.map fun field => (field.1.toList, field.2)) := by
    clear hn
    induction fields with
    | nil => exact .nil
    | cons field fields ih =>
      exact .cons (readMember_member (h field (List.mem_cons_self ..)) _)
        (ih fun field hf => h field (List.mem_cons_of_mem _ hf))
  have hfirst : ∀ t ∈ writeFields fields, ∃ c s, t = c :: s ∧ isSpace c = false ∧ c ≠ '\x7d' := by
    clear hreads h hn
    induction fields with
    | nil => nofun
    | cons field fields ih =>
      intro t ht
      rcases List.mem_cons.mp ht with rfl | ht
      · exact ⟨'"', _, rfl, by decide, by decide⟩
      · exact ih t ht
  have hsequence := readSequence_separated closes_object hreads hfirst rest
  have hskip := skipSpace_of_inked (inked_cons (c := '\x7b') (by decide)
    (separated (writeFields fields) ++ '\x7d' :: rest))
  simp only [write, List.cons_append, List.append_assoc, List.nil_append]
  unfold readValue
  rw [hskip]
  simp only [hsequence, Option.map_some, ofMembers_of_nodup hn]

theorem write_pos {j : Json} (h : j.Proper) : 0 < j.write.length := by
  obtain ⟨c, s, hcs, -⟩ := write_head j h
  rw [hcs]
  exact Nat.succ_pos _

-- The text of a part is shorter than the text of the whole, so its length is fuel enough.
mutual

theorem readsBack : ∀ (j : Json), j.Proper → ∀ fuel, j.write.length ≤ fuel → ReadsBack fuel j
  | j, hp, 0, h => by
    have := write_pos hp
    omega
  | .null, _, fuel + 1, _ => fun _ _ => rfl
  | .bool true, _, fuel + 1, _ => fun _ _ => rfl
  | .bool false, _, fuel + 1, _ => fun _ _ => rfl
  | .number text, hp, fuel + 1, _ => by
    intro rest hr
    have hread := readValue_number hp fuel hr
    rwa [String.ofList_toList] at hread
  | .string s, _, fuel + 1, _ => fun rest _ => readValue_string s fuel rest
  | .array items, hp, fuel + 1, h => by
    refine readValue_array hp (itemsReadBack items hp fuel ?_)
    intro t ht
    have := length_le_separated_of_mem ht
    simp only [write, List.length_cons, List.length_append] at h
    omega
  | .object fields, hp, fuel + 1, h => by
    refine readValue_object hp.1 (fieldsReadBack fields hp.2 fuel ?_)
    intro t ht
    have := length_le_separated_of_mem ht
    simp only [write, List.length_cons, List.length_append] at h
    omega

theorem itemsReadBack : ∀ (items : List Json), ItemsProper items → ∀ fuel,
    (∀ t ∈ writeItems items, t.length ≤ fuel) → ∀ item ∈ items, ReadsBack fuel item
  | [], _, _, _ => nofun
  | item :: items, hp, fuel, h => by
    have hhead := readsBack item hp.1 fuel (h _ (List.mem_cons_self ..))
    have htail := itemsReadBack items hp.2 fuel fun t ht => h t (List.mem_cons_of_mem _ ht)
    exact List.forall_mem_cons.mpr ⟨hhead, htail⟩

theorem fieldsReadBack : ∀ (fields : JsonObject), FieldsProper fields → ∀ fuel,
    (∀ t ∈ writeFields fields, t.length ≤ fuel) → ∀ field ∈ fields, ReadsBack fuel field.2
  | [], _, _, _ => nofun
  | (key, value) :: fields, hp, fuel, h => by
    have hvalue : value.write.length ≤ fuel := by
      have := h _ (List.mem_cons_self ..)
      simp only [member, List.length_append, List.length_cons] at this
      omega
    have hhead := readsBack value hp.1 fuel hvalue
    have htail := fieldsReadBack fields hp.2 fuel fun t ht => h t (List.mem_cons_of_mem _ ht)
    exact List.forall_mem_cons.mpr ⟨hhead, htail⟩

end

/-- What `JSON.stringify` writes, `JSON.parse` reads back. -/
theorem parse_stringify {j : Json} (h : j.Proper) : parse j.stringify = some j := by
  have hread := readsBack j h j.write.length (Nat.le_refl _) [] stops_nil
  rw [List.append_nil] at hread
  have htext : j.stringify.toList = j.write := String.toList_ofList
  have hlength : j.stringify.length = j.write.length := String.length_ofList
  unfold parse
  rw [htext, hlength, hread]
  change (if skipSpace [] = [] then some j else none) = some j
  exact if_pos rfl

end Proofs.JsonRoundTrip

end ApiCenter
