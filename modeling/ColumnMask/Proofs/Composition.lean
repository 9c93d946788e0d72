-- A batch is made of its statements. It has a text exactly if each statement has one alone,
-- and then its text and its columns are put together from theirs. If it has none, the first
-- statement that has none alone is the reason.
import ColumnMask.Proofs.Masking
import ColumnMask.Store.Basic

namespace ColumnMask

open Sql

variable {digest : String → String} {quoting : Quoting} {batch : List Statement}

/-! ## Texts that are read back -/

/-- What keeps a text from being one statement. -/
def complaint? (text : String) : Option String :=
  match parseBatch text with
  | .error failure => some failure.message
  | .ok [_] => none
  | .ok found => some ("expected one statement after serialization, found " ++
      toString found.length)

theorem checkReadable_eq (index : Nat) (text : String) : checkReadable index text =
    match complaint? text with
    | none => .ok ()
    | some message => .error (.unreadable index message) := by
  unfold checkReadable complaint?
  rcases parseBatch text with e | found
  · rfl
  · match found with
    | [] => rfl
    | [s] => rfl
    | s :: t :: more => rfl

theorem checkedTexts_ok {texts : List String} (index : Nat)
    (h : ∀ text ∈ texts, complaint? text = none) : checkedTexts texts index = .ok texts := by
  induction texts generalizing index with
  | nil => rfl
  | cons text texts ih =>
    obtain ⟨ht, hts⟩ := List.forall_mem_cons.mp h
    rw [checkedTexts, checkReadable_eq, ht, ih (index + 1) hts]
    rfl

/-- The first text that is not one statement is the failure, with its index. -/
theorem checkedTexts_error {before after : List String} {text message : String} (index : Nat)
    (hb : ∀ t ∈ before, complaint? t = none) (ht : complaint? text = some message) :
    checkedTexts (before ++ text :: after) index =
      .error (.unreadable (index + before.length) message) := by
  induction before generalizing index with
  | nil =>
    rw [List.nil_append, checkedTexts, checkReadable_eq, ht]
    rfl
  | cons t before ih =>
    obtain ⟨hfirst, hrest⟩ := List.forall_mem_cons.mp hb
    rw [List.cons_append, checkedTexts, checkReadable_eq, hfirst, ih (index + 1) hrest,
      List.length_cons, Nat.add_right_comm, Nat.add_assoc]
    rfl

/-! ## The outcome of a batch -/

/-- The statement has a text: masked and written, it reads back as one statement. -/
def Passes (digest : String → String) (quoting : Quoting) (s : Statement) : Prop :=
  complaint? (maskedText digest quoting s) = none

/-- Each statement of a batch has a text, or one of them is the first that has none. -/
theorem passes_or_first (digest : String → String) (quoting : Quoting) (batch : List Statement) :
    (∀ s ∈ batch, Passes digest quoting s) ∨ ∃ before s after message,
      batch = before ++ s :: after ∧ (∀ t ∈ before, Passes digest quoting t) ∧
        complaint? (maskedText digest quoting s) = some message := by
  induction batch with
  | nil => exact .inl fun s hs => by cases hs
  | cons s batch ih =>
    rcases hs : complaint? (maskedText digest quoting s) with _ | message
    · rcases ih with h | ⟨before, t, after, message, rfl, hb, ht⟩
      · exact .inl (List.forall_mem_cons.mpr ⟨hs, h⟩)
      · exact .inr ⟨s :: before, t, after, message, rfl, List.forall_mem_cons.mpr ⟨hs, hb⟩, ht⟩
    · exact .inr ⟨[], s, batch, message, rfl, (fun t ht => by cases ht), hs⟩

theorem anonymizeBatch_ok (h : ∀ s ∈ batch, s.isSupported)
    (hp : ∀ s ∈ batch, Passes digest quoting s) : anonymizeBatch digest quoting batch =
      .ok ⟨separator.intercalate (batch.map (maskedText digest quoting)),
        (ownMapping digest batch).pairs, batch⟩ := by
  have htexts : ∀ text ∈ batch.map (maskedText digest quoting), complaint? text = none :=
    List.forall_mem_map.mpr hp
  rw [anonymizeBatch_eq quoting h, checkedTexts_ok 0 htexts]
  rfl

theorem anonymizeBatch_error {before after : List Statement} {s : Statement} {message : String}
    (h : ∀ t ∈ before ++ s :: after, t.isSupported) (hb : ∀ t ∈ before, Passes digest quoting t)
    (hs : complaint? (maskedText digest quoting s) = some message) :
    anonymizeBatch digest quoting (before ++ s :: after) =
      .error (.unreadable before.length message) := by
  have htexts : ∀ text ∈ before.map (maskedText digest quoting), complaint? text = none :=
    List.forall_mem_map.mpr hb
  rw [anonymizeBatch_eq quoting h, List.map_append, List.map_cons, checkedTexts_error 0 htexts hs,
    List.length_map, Nat.zero_add]
  rfl

theorem anonymizeBatch_ok_iff (h : ∀ s ∈ batch, s.isSupported) :
    (∃ out, anonymizeBatch digest quoting batch = .ok out) ↔
      ∀ s ∈ batch, Passes digest quoting s := by
  constructor
  · rintro ⟨out, ho⟩
    rcases passes_or_first digest quoting batch with hp | ⟨before, s, after, message, rfl, hb, hs⟩
    · exact hp
    · rw [anonymizeBatch_error h hb hs] at ho
      cases ho
  · intro hp
    exact ⟨_, anonymizeBatch_ok h hp⟩

/-! ## One statement alone -/

theorem supported_singleton {s : Statement} (h : s.isSupported) : ∀ t ∈ [s], t.isSupported :=
  List.forall_mem_singleton.mpr h

theorem alone_ok_iff {s : Statement} (h : s.isSupported) :
    (∃ out, anonymizeBatch digest quoting [s] = .ok out) ↔ Passes digest quoting s := by
  rw [anonymizeBatch_ok_iff (supported_singleton h), List.forall_mem_singleton]

theorem alone_ok {s : Statement} {out : Anonymized} (h : s.isSupported)
    (ho : anonymizeBatch digest quoting [s] = .ok out) :
    out = ⟨maskedText digest quoting s, (ownMapping digest [s]).pairs, [s]⟩ := by
  have hp : Passes digest quoting s := (alone_ok_iff h).mp ⟨out, ho⟩
  rw [anonymizeBatch_ok (supported_singleton h) (List.forall_mem_singleton.mpr hp),
    List.map_singleton, String.intercalate_singleton] at ho
  cases ho
  rfl

theorem alone_error {s : Statement} {message : String} (h : s.isSupported)
    (hs : complaint? (maskedText digest quoting s) = some message) :
    anonymizeBatch digest quoting [s] = .error (.unreadable 0 message) := by
  have hnone : ∀ t ∈ ([] : List Statement), Passes digest quoting t := by simp
  have herror : anonymizeBatch digest quoting ([] ++ [s]) =
      .error (.unreadable ([] : List Statement).length message) :=
    anonymizeBatch_error (supported_singleton h) hnone hs
  exact herror

theorem alone_error_iff {s : Statement} {message : String} (h : s.isSupported) :
    anonymizeBatch digest quoting [s] = .error (.unreadable 0 message) ↔
      complaint? (maskedText digest quoting s) = some message := by
  constructor
  · intro ho
    rcases hs : complaint? (maskedText digest quoting s) with _ | found
    · obtain ⟨out, hout⟩ := (alone_ok_iff h).mpr hs
      rw [hout] at ho
      cases ho
    · rw [alone_error h hs] at ho
      cases ho
      rfl
  · exact alone_error h

theorem singles_eq (h : ∀ s ∈ batch, s.isSupported) {singles : List Anonymized}
    (hs : List.Forall₂ (fun s single => anonymizeBatch digest quoting [s] = .ok single)
      batch singles) :
    singles = batch.map fun s =>
      ⟨maskedText digest quoting s, (ownMapping digest [s]).pairs, [s]⟩ := by
  induction hs with
  | nil => rfl
  | cons ho _ ih =>
    obtain ⟨hs, hb⟩ := List.forall_mem_cons.mp h
    rw [List.map_cons, ← ih hb, alone_ok hs ho]

/-! ## The columns of a batch -/

/-- A name with its digest. -/
def pairOf (digest : String → String) (name : String) : Pair := ⟨name, digest name⟩

theorem addPair_pairOf (s : ColumnSet) (name : String) :
    addPair (s.names.map (pairOf digest)) (pairOf digest name) =
      (s.insert name).names.map (pairOf digest) := by
  have hany : (s.names.map (pairOf digest)).any (fun row => row.name == (pairOf digest name).name) =
      decide (name ∈ s.names) := by
    rw [List.any_map, Bool.eq_iff_iff, List.any_eq_true, decide_eq_true_eq]
    constructor
    · rintro ⟨n, hn, heq⟩
      have hname : n = name := eq_of_beq heq
      exact hname ▸ hn
    · intro hn
      exact ⟨name, hn, beq_self_eq_true name⟩
  unfold addPair
  rw [hany, ColumnSet.names_insert]
  by_cases hm : name ∈ s.names
  · simp [hm]
  · simp [hm]

theorem addPairs_pairOf (names : List String) (s : ColumnSet) :
    addPairs (s.names.map (pairOf digest)) (names.map (pairOf digest)) =
      (names.foldl ColumnSet.insert s).names.map (pairOf digest) := by
  unfold addPairs
  induction names generalizing s with
  | nil => rfl
  | cons name names ih => rw [List.map_cons, List.foldl_cons, addPair_pairOf, ih, List.foldl_cons]

theorem foldl_insert_extractColumns (batch : List Statement) (s : ColumnSet) :
    (batch.flatMap fun t => (extractColumns [t]).names).foldl ColumnSet.insert s =
      (batch.flatMap Statement.sites).foldl ColumnSet.insert s := by
  induction batch generalizing s with
  | nil => rfl
  | cons t batch ih =>
    have ht : (extractColumns [t]).names.foldl ColumnSet.insert s =
        t.sites.foldl ColumnSet.insert s := by
      unfold extractColumns
      rw [ColumnSet.foldl_insert_ofList, List.flatMap_cons, List.flatMap_nil, List.append_nil]
    rw [List.flatMap_cons, List.flatMap_cons, List.foldl_append, List.foldl_append, ht, ih]

/-- The columns of a batch are those of its statements, one after the other, without the later
ones of a name. -/
theorem pairs_of_batch (digest : String → String) (batch : List Statement) :
    (ownMapping digest batch).pairs =
      addPairs [] (batch.flatMap fun s => (ownMapping digest [s]).pairs) := by
  have hsingles : (batch.flatMap fun s => (ownMapping digest [s]).pairs) =
      (batch.flatMap fun s => (extractColumns [s]).names).map (pairOf digest) :=
    List.map_flatMap.symm
  rw [hsingles]
  show (extractColumns batch).names.map (pairOf digest) =
    addPairs (ColumnSet.empty.names.map (pairOf digest)) _
  rw [addPairs_pairOf, foldl_insert_extractColumns]
  rfl

theorem pairs_prefix {before batch : List Statement} (h : before <+: batch) :
    (ownMapping digest before).pairs <+: (ownMapping digest batch).pairs := by
  obtain ⟨after, rfl⟩ := h
  have hnames : (extractColumns before).names <+: (extractColumns (before ++ after)).names := by
    unfold extractColumns ColumnSet.ofList
    rw [List.flatMap_append, List.foldl_append]
    exact ColumnSet.prefix_foldl_insert _ _
  exact hnames.map (pairOf digest)

/-! ## The law -/

/-- How the outcome of a batch comes from those of its statements. -/
structure Composes (digest : String → String) (quoting : Quoting) (batch : List Statement) :
    Prop where
  /-- It has a text exactly if each statement has one alone. -/
  success : (∃ out, anonymizeBatch digest quoting batch = .ok out) ↔
    ∀ s ∈ batch, ∃ out, anonymizeBatch digest quoting [s] = .ok out
  /-- Its text is made of the single texts, and its columns are the single columns without the
  later ones of a name. -/
  text : ∀ out singles, anonymizeBatch digest quoting batch = .ok out →
    List.Forall₂ (fun s single => anonymizeBatch digest quoting [s] = .ok single) batch singles →
    out.sql = separator.intercalate (singles.map Anonymized.sql) ∧
      out.columns = addPairs [] (singles.flatMap Anonymized.columns)
  /-- The columns of a part at its front come first. -/
  front : ∀ out before, anonymizeBatch digest quoting batch = .ok out → before <+: batch →
    ∃ part, anonymizeBatch digest quoting before = .ok part ∧ part.columns <+: out.columns
  /-- If it has no text, the first statement that has none alone is the reason, with its place in
  the batch. -/
  failure : ∀ failure, anonymizeBatch digest quoting batch = .error failure ↔
    ∃ before s after message, batch = before ++ s :: after ∧
      (∀ t ∈ before, ∃ out, anonymizeBatch digest quoting [t] = .ok out) ∧
      anonymizeBatch digest quoting [s] = .error (.unreadable 0 message) ∧
      failure = .unreadable before.length message

theorem a_batch_is_made_of_its_statements (digest : String → String) (quoting : Quoting)
    {batch : List Statement} (h : ∀ s ∈ batch, s.isSupported) : Composes digest quoting batch := by
  have hok : ∀ out, anonymizeBatch digest quoting batch = .ok out →
      (∀ s ∈ batch, Passes digest quoting s) ∧
      out = ⟨separator.intercalate (batch.map (maskedText digest quoting)),
        (ownMapping digest batch).pairs, batch⟩ := by
    intro out ho
    have hp := (anonymizeBatch_ok_iff h).mp ⟨out, ho⟩
    rw [anonymizeBatch_ok h hp] at ho
    cases ho
    exact ⟨hp, rfl⟩
  refine ⟨?success, ?text, ?front, ?failure⟩
  case success =>
    rw [anonymizeBatch_ok_iff h]
    exact forall₂_congr fun s hs => (alone_ok_iff (h s hs)).symm
  case text =>
    intro out singles ho hsingles
    obtain ⟨_, rfl⟩ := hok out ho
    rw [singles_eq h hsingles, List.map_map, List.flatMap_map]
    exact ⟨rfl, pairs_of_batch digest batch⟩
  case front =>
    intro out before ho hbefore
    obtain ⟨hp, rfl⟩ := hok out ho
    have hmem : ∀ s ∈ before, s ∈ batch := fun s hs => hbefore.subset hs
    exact ⟨_, anonymizeBatch_ok (fun s hs => h s (hmem s hs)) fun s hs => hp s (hmem s hs),
      pairs_prefix hbefore⟩
  case failure =>
    intro failure
    constructor
    · intro ho
      rcases passes_or_first digest quoting batch with hp | ⟨before, s, after, message, rfl, hb, hs⟩
      · rw [anonymizeBatch_ok h hp] at ho
        cases ho
      · rw [anonymizeBatch_error h hb hs] at ho
        cases ho
        refine ⟨before, s, after, message, rfl, ?_, ?_, rfl⟩
        · exact fun t ht => (alone_ok_iff (h t (List.mem_append_left _ ht))).mpr (hb t ht)
        · exact (alone_error_iff (h s (by simp))).mpr hs
    · rintro ⟨before, s, after, message, rfl, hb, hs, rfl⟩
      refine anonymizeBatch_error h ?_ ((alone_error_iff (h s (by simp))).mp hs)
      exact fun t ht => (alone_ok_iff (h t (List.mem_append_left _ ht))).mp (hb t ht)

/-- Two statements that share a column. -/
theorem two_updates_compose :
    (∀ s ∈ [updateOf { value := "a" } { value := "b" }, updateOf { value := "b" } { value := "c" }],
      s.isSupported) ∧
    Composes columnDigest .always
      [updateOf { value := "a" } { value := "b" }, updateOf { value := "b" } { value := "c" }] := by
  have hsupported : ∀ s ∈ [updateOf { value := "a" } { value := "b" },
      updateOf { value := "b" } { value := "c" }], s.isSupported := by decide
  exact ⟨hsupported, a_batch_is_made_of_its_statements columnDigest .always hsupported⟩

end ColumnMask
