-- Where quotes are put. They are put around the parts of the names of relations, around the
-- names given to tables, subqueries and items of projections, and around qualifiers, at any
-- depth. Quotes that are there stay, and nothing else of a statement changes.
import ColumnMask.Proofs.AlikeNodes
import ColumnMask.Proofs.QuotesAndDigests

namespace ColumnMask.Sql

/-! ## The places -/

def NamePart.ident? : NamePart → Option Ident
  | .ident i => some i
  | .call .. => none

/-- The identifiers of a name. The name of a call in it is none of them. -/
def identsOfName (n : ObjectName) : List Ident := n.filterMap NamePart.ident?

def Alias.names : Alias → List Ident
  | .absent => []
  | .named _ i _ => [i]

def SelectItem.alias? : SelectItem → Option Ident
  | .aliased _ i => some i
  | _ => none

def Select.aliases : Select → List Ident
  | .mk _ _ _ projection _ _ _ => projection.filterMap SelectItem.alias?

namespace Node

/-- The identifiers at a node that refer to tables: the parts of the name of a relation, and the
qualifiers of a dotted identifier. -/
def references : Node → List Ident
  | .part (.relation n) => identsOfName n
  | .factor (.table n _ _) => identsOfName n
  | .expr (.qualified is) => is.dropLast
  | _ => []

/-- The names that a node gives to a table, to a subquery, or to the items of a projection. -/
def givenNames : Node → List Ident
  | .factor (.table _ a _) => a.names
  | .factor (.derived _ _ a) => a.names
  | .select s => s.aliases
  | _ => []

/-- The identifiers at a node that get quotes. -/
def quotable (n : Node) : List Ident := n.references ++ n.givenNames

end Node

/-! ## The places in trees that are alike -/

section

variable {c : Change} {r : Ident → Ident → Prop}

theorem alikeName.idents : ∀ {n m : ObjectName}, alikeName c r n m →
    List.Forall₂ r (identsOfName n) (identsOfName m)
  | [], _, rfl => .nil
  | .ident _ :: _, _, ⟨_, _, rfl, ⟨_, rfl, h⟩, hs⟩ => .cons h hs.idents
  | .call _ _ :: _, _, ⟨_, _, rfl, ⟨_, rfl, _⟩, hs⟩ => by
    have ih := hs.idents
    exact ih

theorem alikeIdents.qualifiers : ∀ {is js : List Ident}, alikeIdents c is js →
    List.Forall₂ c.qualifier is.dropLast js.dropLast
  | [], _, rfl => .nil
  | [_], _, ⟨_, rfl, _⟩ => .nil
  | _ :: _ :: is, _, ⟨_, js, rfl, hq, h⟩ => by
    have ih := h.qualifiers
    cases js with
    | nil => cases is <;> simp [alikeIdents] at h
    | cons l ls => exact .cons hq ih

theorem Alias.alike.names {a a' : Alias} (h : a.alike c r a') :
    List.Forall₂ r a.names a'.names := by
  cases a with
  | absent =>
    obtain rfl := h
    exact .nil
  | named explicit name columns =>
    obtain ⟨_, _, rfl, hname, _⟩ := h
    exact .cons hname .nil

theorem alikeItems.aliases : ∀ {is js : List SelectItem}, alikeItems c r is js →
    List.Forall₂ r (is.filterMap SelectItem.alias?) (js.filterMap SelectItem.alias?)
  | [], _, rfl => .nil
  | .plain _ :: _, _, ⟨_, _, rfl, ⟨_, rfl, _⟩, hs⟩ => by
    have ih := hs.aliases
    exact ih
  | .aliased _ _ :: _, _, ⟨_, _, rfl, ⟨_, _, rfl, h, _⟩, hs⟩ => .cons h hs.aliases
  | .form _ _ :: _, _, ⟨_, _, rfl, ⟨_, rfl, _⟩, hs⟩ => by
    have ih := hs.aliases
    exact ih

end

end ColumnMask.Sql

namespace ColumnMask

open Sql

/-! ## What becomes of an identifier -/

/-- The second identifier is the first one with quotes: those it had, or else double quotes. -/
structure GetsQuotes (i j : Ident) : Prop where
  value : j.value = i.value
  span : j.span = i.span
  kept : ∀ q, i.quote = some q → j.quote = some q
  put : i.quote = none → j.quote = some '"'

theorem getsQuotes_iff {i j : Ident} : GetsQuotes i j ↔ j = quoteIdent i := by
  constructor
  · rintro ⟨hvalue, hspan, hkept, hput⟩
    cases i with
    | mk value quote span =>
      cases j with
      | mk value' quote' span' =>
        obtain rfl : value' = value := hvalue
        obtain rfl : span' = span := hspan
        rcases quote with _ | q
        · obtain rfl : quote' = some '"' := hput rfl
          rfl
        · obtain rfl : quote' = some q := hkept q rfl
          rfl
  · rintro rfl
    refine ⟨rfl, rfl, ?_, ?_⟩
    · intro q hq
      rw [quoteIdent, hq]
      rfl
    · intro hq
      rw [quoteIdent, hq]
      rfl

theorem GetsQuotes.isSome {i j : Ident} (h : GetsQuotes i j) : j.quote.isSome := by
  rw [getsQuotes_iff.mp h]
  rfl

/-- Quotes that are there stay as they are. -/
theorem quoteIdent_quoteIdent (i : Ident) : quoteIdent (quoteIdent i) = quoteIdent i := rfl

/-- The change that puts quotes at their places, and changes nothing else. -/
def quotesOnly : Change where
  lone := Eq
  last := Eq
  qualifier := GetsQuotes
  joined := Eq
  relation := GetsQuotes
  source := GetsQuotes
  label := GetsQuotes

theorem quotesOnly_allows : quotesOnly.Allows quoting where
  lone _ := rfl
  last _ := rfl
  qualifier _ := getsQuotes_iff.mpr rfl
  joined _ := rfl
  relation _ := getsQuotes_iff.mpr rfl
  source _ := getsQuotes_iff.mpr rfl
  label _ := getsQuotes_iff.mpr rfl

theorem relates_getsQuotes : Relates GetsQuotes GetsQuotes Eq := by
  intro i j k hj hk
  rw [getsQuotes_iff.mp hj, getsQuotes_iff.mp hk]

theorem quotesOnly_fixed : quotesOnly.Fixed where
  lone := relates_eq
  last := relates_eq
  qualifier := relates_getsQuotes
  joined := relates_eq
  relation := relates_getsQuotes
  source := relates_getsQuotes
  label := relates_getsQuotes

/-! ## What becomes of a statement -/

theorem quotesOnly_withQuotes (s : Statement) : s.alike quotesOnly Eq s.withQuotes :=
  s.alike_walk quotesOnly_allows

/-- The statement with quotes is the only one that differs by quotes at their places. -/
theorem alike_quotesOnly_iff (s t : Statement) :
    s.alike quotesOnly Eq t ↔ t = s.withQuotes := by
  constructor
  · exact fun h => (quotesOnly_withQuotes s).unique quotesOnly_fixed relates_eq h
  · rintro rfl
    exact quotesOnly_withQuotes s

-- An identifier with quotes stands for itself, so the statement with quotes may stand for itself.
theorem withQuotes_withQuotes (s : Statement) : s.withQuotes.withQuotes = s.withQuotes := by
  have hsame : Relates GetsQuotes GetsQuotes GetsQuotes := by
    intro i j k hj hk
    rw [getsQuotes_iff] at hj hk ⊢
    rw [hj, hk, quoteIdent_quoteIdent]
  have hsteady : quotesOnly.Relates quotesOnly quotesOnly :=
    ⟨relates_eq, relates_eq, hsame, relates_eq, hsame, hsame, hsame⟩
  have hself : s.withQuotes.alike quotesOnly Eq s.withQuotes :=
    (quotesOnly_withQuotes s).both hsteady relates_eq (quotesOnly_withQuotes s)
  exact ((alike_quotesOnly_iff _ _).mp hself).symm

/-! ## The places in a statement with quotes -/

theorem quotesOnly_within : quotesOnly.Within fun i j => j.value = i.value where
  keep := by
    rintro i j rfl
    rfl
  joined := by
    rintro i j rfl
    rfl
  relation _ _ h := h.value
  source _ _ h := h.value
  label _ _ h := h.value

section

variable {b : Ident → Ident → Prop} {k k' : Node} (h : k.Alike quotesOnly b k')
include h

theorem Sql.Node.Alike.references : List.Forall₂ GetsQuotes k.references k'.references := by
  cases h with
  | @expr e e' h =>
    cases e with
    | qualified is =>
      obtain ⟨js, rfl, h⟩ := h
      exact h.qualifiers
    | _ =>
      obtain ⟨_, rfl, _⟩ := h
      exact .nil
  | @factor u t t' _ h =>
    cases t with
    | table n a details =>
      obtain ⟨n', a', details', rfl, hn, _, _⟩ := h
      exact hn.idents
    | derived lateral q a =>
      obtain ⟨_, _, rfl, _, _⟩ := h
      exact .nil
    | nested t a =>
      obtain ⟨_, _, rfl, _, _⟩ := h
      exact .nil
    | form f ps =>
      obtain ⟨_, rfl, _⟩ := h
      exact .nil
  | @part p p' h =>
    cases p with
    | relation n =>
      obtain ⟨n', rfl, h⟩ := h
      exact h.idents
    -- Any other part stands beside one of its own kind, and neither refers to a table.
    | _ => first
      | obtain rfl := h
        exact .nil
      | obtain ⟨_, rfl, _⟩ := h
        exact .nil
  | _ => exact .nil

theorem Sql.Node.Alike.givenNames : List.Forall₂ GetsQuotes k.givenNames k'.givenNames := by
  cases h with
  | @factor u t t' _ h =>
    cases t with
    | table n a details =>
      obtain ⟨n', a', details', rfl, _, ha, _⟩ := h
      exact ha.names
    | derived lateral q a =>
      obtain ⟨q', a', rfl, _, ha⟩ := h
      exact ha.names
    | nested t a =>
      obtain ⟨_, _, rfl, _, _⟩ := h
      exact .nil
    | form f ps =>
      obtain ⟨_, rfl, _⟩ := h
      exact .nil
  | @select s s' h =>
    cases s with
    | mk flavor mode head projection middle tables clauses =>
      obtain ⟨_, _, _, _, _, rfl, _, hitems, _, _, _⟩ := h
      exact hitems.aliases
  | _ => exact .nil

theorem Sql.Node.Alike.quotable : List.Forall₂ GetsQuotes k.quotable k'.quotable :=
  List.rel_append h.references h.givenNames

end

theorem withQuotes_beside (s : Statement) :
    (Node.statement s).Alike quotesOnly (fun i j => j.value = i.value) (.statement s.withQuotes) :=
  .statement quotesOnly_within.keep (quotesOnly_withQuotes s)

/-- At every node of a statement with quotes, whatever gets quotes has them. -/
theorem isSome_of_quotable {s : Statement} {n : Node}
    (hn : (Node.statement s.withQuotes).Contains n) {i : Ident} (hi : i ∈ n.quotable) :
    i.quote.isSome := by
  obtain ⟨k, _, hk⟩ := (withQuotes_beside s).container quotesOnly_within hn
  obtain ⟨j, _, hj⟩ := exists_beside hk.quotable.flip hi
  exact GetsQuotes.isSome hj

/-- The statement with quotes is the one that differs from the statement by quotes at their places
only: quotes that are there stay, and no value, no other identifier and no other node changes. At
each node all identifiers that get quotes have them, at any depth. To put quotes a second time
changes nothing. -/
theorem quotes_stand_at_their_places_only (s : Statement) :
    (∀ t, s.alike quotesOnly Eq t ↔ t = s.withQuotes) ∧
    (∀ n, (Node.statement s.withQuotes).Contains n → ∀ i ∈ n.quotable, i.quote.isSome) ∧
    s.withQuotes.withQuotes = s.withQuotes :=
  ⟨alike_quotesOnly_iff s, fun _ hn _ hi => isSome_of_quotable hn hi, withQuotes_withQuotes s⟩

/-- The qualifier of a column, at a node of its own in the statement with quotes. -/
theorem joinedSelect_has_quotes :
    (Node.statement joinedSelect.withQuotes).Contains
      (.expr (.qualified [{ value := "t", quote := some '"' }, { value := "a" }])) ∧
    ({ value := "t", quote := some '"' } : Ident).quote.isSome := by
  have hn : (Node.statement joinedSelect.withQuotes).Contains
      (.expr (.qualified [{ value := "t", quote := some '"' }, { value := "a" }])) := by
    refine .head (List.mem_singleton_self _) (.head (.tail _ (.head _)) ?_)
    refine .head (List.mem_singleton_self _) ?_
    refine .head (.head _) ?_
    exact .single (List.mem_singleton_self _)
  exact ⟨hn, (quotes_stand_at_their_places_only joinedSelect).2.1 _ hn _ (.head _)⟩

end ColumnMask
