-- Pairs in JSON text. A list of pairs is printed as a list of lists of two strings, first the name
-- and then the digest, and the text reads back as these pairs in their order, whatever characters
-- they have. The same holds of the columns of a response.
import ColumnMask.Proofs.JsonOutput

namespace ColumnMask

/-! ## Pairs as values -/

theorem Pair.ofJson?_eq_some_iff {j : Json} {p : Pair} : Pair.ofJson? j = some p ↔ j = p.json := by
  constructor
  · intro h
    unfold Pair.ofJson? at h
    split at h
    · rw [← Option.some.inj h, Pair.json]
    · cases h
  · rintro rfl
    rfl

theorem mapM_ofJson?_eq_some_iff {items : List Json} {pairs : List Pair} :
    items.mapM Pair.ofJson? = some pairs ↔ items = pairs.map Pair.json := by
  induction items generalizing pairs with
  | nil => cases pairs <;> simp
  | cons item items ih =>
    rw [List.mapM_cons]
    simp only [Option.bind_eq_bind, Option.bind_eq_some_iff, Pair.ofJson?_eq_some_iff, ih]
    constructor
    · rintro ⟨p, rfl, ps, rfl, hpairs⟩
      rw [← Option.some.inj hpairs, List.map_cons]
    · intro h
      obtain ⟨p, ps, rfl, rfl, rfl⟩ := List.map_eq_cons_iff.mp h.symm
      exact ⟨p, rfl, ps, rfl, rfl⟩

/-- Only the value of some pairs is decoded to them. -/
theorem pairsOfJson?_eq_some_iff {j : Json} {pairs : List Pair} :
    pairsOfJson? j = some pairs ↔ j = pairsJson pairs := by
  cases j with
  | array items =>
    rw [pairsOfJson?, mapM_ofJson?_eq_some_iff, pairsJson, Json.array.injEq]
  | _ => exact iff_of_false nofun nofun

/-- The columns of a response, decoded from its value. If there is no field for them, there are
none. -/
def columnsOfJson? (j : Json) : Option (List Pair) := do
  match ← j.record? ["hashedColumns"] with
  | [some columns] => pairsOfJson? columns
  | _ => some []

theorem Response.columnsOfJson?_json (r : Response) : columnsOfJson? r.json = some r.columns := by
  cases r with
  | skipped => rfl
  | anonymized result =>
    have hcolumns : columnsOfJson? (Response.anonymized result).json =
        pairsOfJson? (pairsJson result.columns) := rfl
    rw [hcolumns]
    exact pairsOfJson?_eq_some_iff.mpr rfl

/-! ## Pairs as text -/

/-- The pairs of a text. -/
def pairsOfText? (text : String) : Option (List Pair) := do
  pairsOfJson? (← Json.read? text)

/-- The columns of a response, decoded from its text. -/
def columnsOfText? (text : String) : Option (List Pair) := do
  columnsOfJson? (← Json.read? text)

open Json (newline stringChars)

/-- The lines of a pair: a list in a list, with the name above the digest. -/
def Pair.lines (p : Pair) : List Char :=
  newline 1 ++ '[' :: (newline 2 ++ (stringChars p.name ++
    ',' :: (newline 2 ++ (stringChars p.digest ++ (newline 1 ++ [']'])))))

/-- The lines of a list of pairs. -/
def pairsLines : List Pair → List Char
  | [] => ['[', ']', '\n']
  | p :: ps => '[' :: (p.lines ++ (ps.flatMap (fun p => ',' :: p.lines) ++ ['\n', ']', '\n']))

theorem Pair.prettyChars_json (p : Pair) : newline 1 ++ p.json.prettyChars 1 = p.lines := by
  simp [Pair.json, Pair.lines, Json.prettyChars, Json.prettyRest]

theorem prettyRest_pairs (pairs : List Pair) :
    Json.prettyRest 1 (pairs.map Pair.json) = pairs.flatMap fun p => ',' :: p.lines := by
  induction pairs with
  | nil => rfl
  | cons p ps ih =>
    rw [List.map_cons, Json.prettyRest, ih, List.flatMap_cons, ← List.append_assoc,
      p.prettyChars_json, List.cons_append]

theorem Program.jsonLines_pairs (pairs : List Pair) :
    jsonLines (pairsJson pairs) = String.ofList (pairsLines pairs) := by
  unfold jsonLines Json.pretty pairsJson
  cases pairs with
  | nil => rfl
  | cons p ps =>
    have hend : newline 0 = ['\n'] := rfl
    have hlines : (Json.array (List.map Pair.json (p :: ps))).prettyChars 0 ++ ['\n'] =
        pairsLines (p :: ps) := by
      rw [List.map_cons, Json.prettyChars, prettyRest_pairs, ← List.append_assoc (newline _),
        p.prettyChars_json, hend, pairsLines]
      simp
    rw [← hlines, String.ofList_append]

example : Program.jsonLines (pairsJson [⟨"a", "ca97"⟩]) =
    "[\n  [\n    \"a\",\n    \"ca97\"\n  ]\n]\n" := by decide

namespace Program

/-- Of some pairs nothing is lost in JSON. -/
structure JsonKeepsPairs (pairs : List Pair) : Prop where
  /-- They are printed as a list over several lines, each as a list of two strings. -/
  lines : showMappings .json pairs = String.ofList (pairsLines pairs)
  /-- The text is that of the list of lists of a name and a digest. -/
  value : Json.read? (showMappings .json pairs) =
    some (.array (pairs.map fun p => .array [.text p.name, .text p.digest]))
  /-- The pairs are decoded from it in their order. -/
  decoded : pairsOfText? (showMappings .json pairs) = some pairs
  /-- No other pairs are printed like them. -/
  only : ∀ {other : List Pair}, showMappings .json other = showMappings .json pairs → other = pairs
  /-- They are decoded from each response that has them as its columns. -/
  response : ∀ {r : Response}, r.columns = pairs →
    columnsOfText? (showResponse .json r) = some pairs
  /-- They are decoded from what is printed of a database that has them. -/
  run : ∀ {start : Start} {path : String} {d : Directory} {rows : List Pair},
    start.AsksAt path (.mappings .json) → d.opening path = .ok rows → sortPairs rows = pairs →
      pairsOfText? (start.run d).1.stdout = some pairs

theorem read?_showMappings (pairs : List Pair) :
    Json.read? (showMappings .json pairs) = some (pairsJson pairs) :=
  read?_jsonLines (pairsJson_whole pairs)

theorem pairsOfText?_showMappings (pairs : List Pair) :
    pairsOfText? (showMappings .json pairs) = some pairs := by
  unfold pairsOfText?
  rw [read?_showMappings]
  exact pairsOfJson?_eq_some_iff.mpr rfl

theorem columnsOfText?_showResponse (r : Response) :
    columnsOfText? (showResponse .json r) = some r.columns := by
  have hread : Json.read? (showResponse .json r) = some r.json := read?_jsonLines r.json_whole
  unfold columnsOfText?
  rw [hread]
  exact r.columnsOfJson?_json

theorem json_keeps_pairs (pairs : List Pair) : JsonKeepsPairs pairs := by
  constructor
  case lines => exact jsonLines_pairs pairs
  case value => exact read?_showMappings pairs
  case decoded => exact pairsOfText?_showMappings pairs
  case only =>
    intro other h
    have hother := pairsOfText?_showMappings other
    rw [h, pairsOfText?_showMappings] at hother
    exact (Option.some.inj hother).symm
  case response =>
    rintro r rfl
    exact columnsOfText?_showResponse r
  case run =>
    rintro start path d rows hask hopen rfl
    have hrun := hask.run_outcome d
    rw [hopen] at hrun
    have hprinted : (start.run d).1.stdout = showMappings .json (sortPairs rows) :=
      congrArg Outcome.stdout hrun
    rw [hprinted, pairsOfText?_showMappings]

end Program

end ColumnMask
