-- Each place of a column outside expressions is given twice, as the list of its identifiers and as
-- a change of them. The change goes through that list and no further: a callback is called for the
-- identifiers of the list, in their order, up to its first failure, and the tree has what the
-- callback made of them.
import ColumnMask.Proofs.Entering
import ColumnMask.Proofs.Renaming
import ColumnMask.Proofs.Sameness

namespace ColumnMask.Sql

/-! ## Computations side by side -/

section

variable {m : Type → Type} [Monad m] {α β γ δ : Type}

/-- Two computations that have the same effects, and results that are related. -/
def Coupled (r : α → β → Prop) (x : m α) (y : m β) : Prop :=
  ∃ both : m { p : α × β // r p.1 p.2 },
    x = (fun p => p.1.1) <$> both ∧ y = (fun p => p.1.2) <$> both

variable [LawfulMonad m]

theorem Coupled.pure {r : α → β → Prop} {a : α} {b : β} (h : r a b) :
    Coupled (m := m) r (Pure.pure a) (Pure.pure b) := by
  refine ⟨Pure.pure ⟨(a, b), h⟩, ?_, ?_⟩ <;> rw [map_pure]

theorem Coupled.same (x : m α) : Coupled Eq x x := by
  refine ⟨(fun a => ⟨(a, a), rfl⟩) <$> x, ?_, ?_⟩ <;> simp

theorem Coupled.bind {r : α → β → Prop} {r' : γ → δ → Prop} {x : m α} {y : m β} {f : α → m γ}
    {g : β → m δ} (h : Coupled r x y) (hf : ∀ {a b}, r a b → Coupled r' (f a) (g b)) :
    Coupled r' (x >>= f) (y >>= g) := by
  obtain ⟨both, rfl, rfl⟩ := h
  choose after hafter using fun p : { p : α × β // r p.1 p.2 } => hf p.2
  refine ⟨both >>= after, ?_, ?_⟩
  · rw [map_bind, bind_map_left]
    exact bind_congr fun p => (hafter p).1
  · rw [map_bind, bind_map_left]
    exact bind_congr fun p => (hafter p).2

/-! ## Filling in a list -/

theorem mapEach_append (f : α → m α) (as bs : List α) :
    mapEach f (as ++ bs) = do let as ← mapEach f as; return as ++ (← mapEach f bs) := by
  induction as with
  | nil => simp [mapEach]
  | cons a as ih => simp [mapEach, ih]

/-- Takes the next identifier of a list in place of the one that is there. -/
def nextIdent (i : Ident) : StateM (List Ident) Ident := fun js => (js.headD i, js.tail)

/-- What comes of filling in a list: it has that list at its sites and keeps to a frame, and what
is left of a longer list is left. -/
structure Filled (frame : α → Prop) (sites : α → List Ident) (fill : StateM (List Ident) α)
    (js : List Ident) (a : α) : Prop where
  frame : frame a
  sites : sites a = js
  filled : ∀ rest, fill.run (js ++ rest) = (a, rest)

theorem Filled.run_eq {frame : α → Prop} {sites : α → List Ident} {fill : StateM (List Ident) α}
    {js : List Ident} {a : α} (h : Filled frame sites fill js a) : (fill.run js).1 = a := by
  have hfilled := h.filled []
  rw [List.append_nil] at hfilled
  rw [hfilled]

variable {f : Ident → m Ident} {frame : γ → Prop} {frameA : α → Prop} {frameB : β → Prop}
  {sites : γ → List Ident} {sitesA : α → List Ident} {sitesB : β → List Ident}
  {fillA : StateM (List Ident) α} {fillB : StateM (List Ident) β}

theorem coupled_nothing {c : γ} (hframe : frame c) (hsites : sites c = []) :
    Coupled (Filled frame sites (pure c)) (mapEach f []) (pure c) :=
  .pure ⟨hframe, hsites, fun _ => rfl⟩

theorem coupled_one {G : Ident → γ} (i : Ident) (hframe : ∀ j, frame (G j))
    (hsites : ∀ j, sites (G j) = [j]) :
    Coupled (Filled frame sites (do return G (← nextIdent i))) (mapEach f [i])
      (do return G (← f i)) := by
  rw [mapEach, mapEach]
  apply (Coupled.same (f i)).bind
  rintro j _ rfl
  rw [pure_bind]
  exact .pure ⟨hframe j, hsites j, fun _ => rfl⟩

/-- A part with sites below a node that has none of its own. -/
theorem Coupled.node {is : List Ident} {x : m α} {G : α → γ}
    (hx : Coupled (Filled frameA sitesA fillA) (mapEach f is) x)
    (hframe : ∀ {a}, frameA a → frame (G a)) (hsites : ∀ {a}, frameA a → sites (G a) = sitesA a) :
    Coupled (Filled frame sites (do return G (← fillA))) (mapEach f is) (do return G (← x)) := by
  rw [← bind_pure (mapEach f is)]
  apply hx.bind
  intro js a h
  refine .pure ⟨hframe h.frame, (hsites h.frame).trans h.sites, fun rest => ?_⟩
  rw [StateT.run_bind, h.filled]
  rfl

/-- Two parts with sites: those of the first part come first. -/
theorem Coupled.node₂ {is js : List Ident} {x : m α} {y : m β} {G : α → β → γ}
    (hx : Coupled (Filled frameA sitesA fillA) (mapEach f is) x)
    (hy : Coupled (Filled frameB sitesB fillB) (mapEach f js) y)
    (hframe : ∀ {a b}, frameA a → frameB b → frame (G a b))
    (hsites : ∀ a b, sites (G a b) = sitesA a ++ sitesB b) :
    Coupled (Filled frame sites (do let a ← fillA; return G a (← fillB))) (mapEach f (is ++ js))
      (do let a ← x; return G a (← y)) := by
  rw [mapEach_append]
  apply hx.bind
  intro is a ha
  apply hy.bind
  intro js b hb
  refine .pure ⟨hframe ha.frame hb.frame, ?_, fun rest => ?_⟩
  · rw [hsites, ha.sites, hb.sites]
  · rw [List.append_assoc, StateT.run_bind, ha.filled]
    show StateT.run (do return G a (← fillB)) (js ++ rest) = _
    rw [StateT.run_bind, hb.filled]
    rfl

end

/-! ## What has no sites stays as it is -/

theorem unchanged_allows : unchanged.Allows (Walker.watch (m := Id) fun _ => pure ()) where
  lone _ := rfl
  last _ := rfl
  qualifier _ := rfl
  joined _ := rfl
  relation _ := rfl
  source _ := rfl
  label _ := rfl

theorem NamePart.alike_self (p : NamePart) : p.alike unchanged Eq p := by
  have h := p.alike_walk unchanged_allows fun i => (Id.run_pure i).symm
  rwa [p.walk_watch _ (unwatched_unmet _)] at h

theorem Alias.alike_self (a : Alias) : a.alike unchanged Eq a := by
  have h := a.alike_walk unchanged_allows fun i => (Id.run_pure i).symm
  rwa [a.walk_watch _ (unwatched_unmet _)] at h

theorem Expr.alike_self (e : Expr) : e.alike unchanged e := by
  have h := e.alike_walk unchanged_allows
  rwa [e.walk_watch] at h

theorem TableFactor.alike_self (t : TableFactor) : t.alike unchanged Eq t := by
  have h := t.alike_walk unchanged_allows false
  rwa [t.walk_watch] at h

section

variable {m : Type → Type} [Monad m] [LawfulMonad m] (f : Ident → m Ident)

/-! ## Names -/

theorem alikeSite.ne_nil {c : Change} {u : Ident → Ident → Prop} {p : NamePart}
    {ps n : ObjectName} (h : alikeSite c u (p :: ps) n) : n ≠ [] := by
  rintro rfl
  cases ps <;> simp [alikeSite] at h

theorem coupled_lastIdent : ∀ n : ObjectName,
    Coupled (Filled (alikeSite unchanged anything n) (fun n => (lastIdent n).toList)
      (mapLastIdent nextIdent n)) (mapEach f (lastIdent n).toList) (mapLastIdent f n)
  | [] => coupled_nothing rfl rfl
  | [.ident i] => coupled_one i (fun j => ⟨_, rfl, j, rfl, trivial⟩) fun _ => rfl
  | [.call n args] => coupled_nothing ⟨_, rfl, (NamePart.call n args).alike_self⟩ rfl
  | p :: q :: ps => by
    rw [mapLastIdent, mapLastIdent, lastIdent]
    apply (coupled_lastIdent (q :: ps)).node
    · exact fun h => ⟨_, _, rfl, p.alike_self, h⟩
    · intro n h
      obtain ⟨r, rs, rfl⟩ := List.exists_cons_of_ne_nil h.ne_nil
      rw [lastIdent]

theorem coupled_lastIdents (ns : List ObjectName) :
    Coupled (Filled (alikeSites unchanged anything ns) (fun ns => ns.filterMap lastIdent)
      (mapLastIdents nextIdent ns)) (mapEach f (ns.filterMap lastIdent)) (mapLastIdents f ns) := by
  induction ns with
  | nil => exact coupled_nothing rfl rfl
  | cons n ns ih =>
    rw [filterMap_lastIdent_cons]
    apply (coupled_lastIdent f n).node₂ ih
    · exact fun h hs => ⟨_, _, rfl, h, hs⟩
    · exact filterMap_lastIdent_cons

/-! ## USING lists -/

mutual

theorem TableWithJoins.coupled : ∀ t : TableWithJoins,
    Coupled (Filled (t.alike unchanged anything) TableWithJoins.usingColumns (t.mapUsing nextIdent))
      (mapEach f t.usingColumns) (t.mapUsing f)
  | .mk relation joins =>
    relation.coupled.node₂ (coupled_joins joins) (fun h hs => ⟨_, _, rfl, h, hs⟩) fun _ _ => rfl

theorem TableFactor.coupled : ∀ t : TableFactor,
    Coupled (Filled (t.alike unchanged anything) TableFactor.nestedColumns (t.mapNested nextIdent))
      (mapEach f t.nestedColumns) (t.mapNested f)
  | .table n a details => coupled_nothing (TableFactor.table n a details).alike_self rfl
  | .derived lateral q a => coupled_nothing (TableFactor.derived lateral q a).alike_self rfl
  | .nested t a => t.coupled.node (fun h => ⟨_, _, rfl, h, a.alike_self⟩) fun _ => rfl
  | .form form parts => coupled_nothing (TableFactor.form form parts).alike_self rfl

theorem coupled_joins : ∀ js,
    Coupled
      (Filled (alikeJoins unchanged anything js) joinsUsingColumns (mapJoinsUsing nextIdent js))
      (mapEach f (joinsUsingColumns js)) (mapJoinsUsing f js)
  | [] => coupled_nothing rfl rfl
  | j :: js =>
    j.coupled.node₂ (coupled_joins js) (fun h hs => ⟨_, _, rfl, h, hs⟩) fun _ _ => rfl

theorem Join.coupled : ∀ j : Join,
    Coupled (Filled (j.alike unchanged anything) Join.usingColumns (j.mapUsing nextIdent))
      (mapEach f j.usingColumns) (j.mapUsing f)
  | .constrained relation _ _ c =>
    relation.coupled.node₂ c.coupled (fun h hc => ⟨_, _, rfl, h, hc⟩) fun _ _ => rfl
  | .asOf relation _ condition c =>
    relation.coupled.node₂ c.coupled (fun h hc => ⟨_, _, _, rfl, h, condition.alike_self, hc⟩)
      fun _ _ => rfl
  | .apply relation _ _ => relation.coupled.node (fun h => ⟨_, rfl, h⟩) fun _ => rfl

theorem JoinConstraint.coupled : ∀ c : JoinConstraint,
    Coupled (Filled (c.alike unchanged anything) JoinConstraint.usingColumns (c.mapUsing nextIdent))
      (mapEach f c.usingColumns) (c.mapUsing f)
  | .on condition => coupled_nothing ⟨_, rfl, condition.alike_self⟩ rfl
  | .using names => (coupled_lastIdents f names).node (fun h => ⟨_, rfl, h⟩) fun _ => rfl
  | .natural => coupled_nothing rfl rfl
  | .absent => coupled_nothing rfl rfl

end

/-! ## Assignments -/

theorem Target.coupled (t : Target) :
    Coupled (Filled (t.alike unchanged anything) Target.columns (t.mapColumns nextIdent))
      (mapEach f t.columns) (t.mapColumns f) := by
  cases t with
  | name n => exact (coupled_lastIdent f n).node (fun h => ⟨_, rfl, h⟩) fun _ => rfl
  | tuple ns => exact (coupled_lastIdents f ns).node (fun h => ⟨_, rfl, h⟩) fun _ => rfl

theorem Assignment.coupled (a : Assignment) :
    Coupled
      (Filled (a.alike unchanged anything) (fun a => a.target.columns) (a.mapTarget nextIdent))
      (mapEach f a.target.columns) (a.mapTarget f) := by
  cases a with
  | mk target value =>
    exact (target.coupled f).node (fun h => ⟨_, _, rfl, h, value.alike_self⟩) fun _ => rfl

theorem coupled_assignments (as : List Assignment) :
    Coupled
      (Filled (alikeAssignments unchanged anything as) assignedColumns (mapAssigned nextIdent as))
      (mapEach f (assignedColumns as)) (mapAssigned f as) := by
  induction as with
  | nil => exact coupled_nothing rfl rfl
  | cons a as ih =>
    exact (a.coupled f).node₂ ih (fun h hs => ⟨_, _, rfl, h, hs⟩) fun _ _ => rfl

end

/-! ## Callbacks -/

variable {α σ ε : Type}

/-- A callback is given an identifier and may change it. It has a state of its own, and it may fail
once it has changed them. -/
abbrev Callback (σ ε : Type) := Ident → σ → Except ε Unit × Ident × σ

/-- What comes of a callback on a list: whether it failed, the identifiers as they are afterwards,
and its state. -/
structure Called (σ ε : Type) where
  result : Except ε Unit
  idents : List Ident
  state : σ

namespace Callback

/-- The callback on the identifiers of a list, from the first one on. After its first failure it is
not called again. -/
def each (c : Callback σ ε) : List Ident → σ → Called σ ε
  | [], s => ⟨.ok (), [], s⟩
  | i :: is, s =>
    match c i s with
    | (.ok (), j, s) =>
      let rest := c.each is s
      ⟨rest.result, j :: rest.idents, rest.state⟩
    | (.error e, j, s) => ⟨.error e, j :: is, s⟩

/-- The callback as a change that ends where it fails. -/
def orStop (c : Callback σ ε) (i : Ident) : ExceptT ε (StateM σ) Ident :=
  ExceptT.mk fun s => let (result, j, s) := c i s; (result.map fun _ => j, s)

/-- The callback as a change in place. What was changed up to a failure stays changed, and what
comes after it stays as it is. -/
def inPlace (c : Callback σ ε) (i : Ident) : StateM (Except ε Unit × σ) Ident
  | (.ok (), s) => let (result, j, s) := c i s; (j, result, s)
  | (.error e, s) => (i, .error e, s)

theorem mapEach_orStop (c : Callback σ ε) (is : List Ident) (s : σ) :
    (mapEach c.orStop is).run.run s =
      ((c.each is s).result.map fun _ => (c.each is s).idents, (c.each is s).state) := by
  induction is generalizing s with
  | nil => rfl
  | cons i is ih =>
    rcases hc : c i s with ⟨result, j, t⟩
    have hi : (c.orStop i).run.run s = (result.map fun _ => j, t) := by
      unfold orStop
      rw [ExceptT.run_mk, StateT.run, hc]
    rw [mapEach, each, hc, ExceptT.run_bind, StateT.run_bind, hi]
    cases result with
    | ok _ =>
      show (do return j :: (← mapEach c.orStop is) : ExceptT ε (StateM σ) _).run.run t = _
      rw [ExceptT.run_bind, StateT.run_bind, ih]
      cases (c.each is t).result <;> rfl
    | error e => rfl

theorem run_mapEach_cons {ρ : Type} (f : Ident → StateM ρ Ident) (i : Ident) (is : List Ident)
    (r : ρ) : (mapEach f (i :: is)).run r =
      (((f i).run r).1 :: ((mapEach f is).run ((f i).run r).2).1,
        ((mapEach f is).run ((f i).run r).2).2) := rfl

theorem mapEach_failed (c : Callback σ ε) (is : List Ident) (e : ε) (s : σ) :
    (mapEach c.inPlace is).run (.error e, s) = (is, .error e, s) := by
  induction is with
  | nil => rfl
  | cons i is ih =>
    have hi : (c.inPlace i).run (.error e, s) = (i, .error e, s) := rfl
    rw [run_mapEach_cons, hi, ih]

theorem mapEach_inPlace (c : Callback σ ε) (is : List Ident) (s : σ) :
    (mapEach c.inPlace is).run (.ok (), s) =
      ((c.each is s).idents, (c.each is s).result, (c.each is s).state) := by
  induction is generalizing s with
  | nil => rfl
  | cons i is ih =>
    rcases hc : c i s with ⟨result, j, t⟩
    have hi : (c.inPlace i).run (.ok (), s) = (j, result, t) := by
      unfold inPlace
      simp only [StateT.run, hc]
    rw [run_mapEach_cons, each, hc, hi]
    cases result with
    | ok _ => rw [ih]
    | error e => rw [mapEach_failed]

end Callback

/-! ## What a callback leaves of a tree -/

section

variable {frame : α → Prop} {sites : α → List Ident} {a : α}

/-- A change with any effects is that change of the list of sites, filled in. -/
theorem Coupled.eq_filled {m : Type → Type} [Monad m] [LawfulMonad m]
    {fill : StateM (List Ident) α} {js : m (List Ident)} {x : m α}
    (h : Coupled (Filled frame sites fill) js x) : x = (fun js => (fill.run js).1) <$> js := by
  obtain ⟨both, rfl, rfl⟩ := h
  rw [← comp_map]
  congr 1
  funext p
  exact p.2.run_eq.symm

theorem Coupled.filled_run {ρ : Type} {fill : StateM (List Ident) α} {js : StateM ρ (List Ident)}
    {x : StateM ρ α} (h : Coupled (Filled frame sites fill) js x) (r : ρ) :
    Filled frame sites fill (js.run r).1 (x.run r).1 := by
  obtain ⟨both, rfl, rfl⟩ := h
  rw [StateT.run_map, StateT.run_map]
  exact (both.run r).1.2

/-- What a callback leaves of a tree, by its way along the list of the sites of the tree. -/
structure Callback.Leaves (c : Callback σ ε) (s : σ) (frame : α → Prop) (sites : α → List Ident)
    (change : ∀ {m : Type → Type} [Monad m], (Ident → m Ident) → m α) (called : Called σ ε)
    (after : α) : Prop where
  /-- Off its sites it is the tree from before. -/
  frame : frame after
  /-- At its sites it has what the callback left of the list. -/
  sites : sites after = called.idents
  /-- This is left by a change in place, which says whether the callback failed. -/
  inPlace : (change c.inPlace).run (.ok (), s) = (after, called.result, called.state)
  /-- A change that ends at the first failure gives this, or else that failure. -/
  orStop : (change c.orStop).run.run s = (called.result.map fun _ => after, called.state)

theorem Callback.exists_leaves {change : ∀ {m : Type → Type} [Monad m], (Ident → m Ident) → m α}
    (h : ∀ {m : Type → Type} [Monad m] [LawfulMonad m] (f : Ident → m Ident),
      Coupled (Filled frame sites (change nextIdent)) (mapEach f (sites a)) (change f))
    (c : Callback σ ε) (s : σ) :
    ∃ after, c.Leaves s frame sites change (c.each (sites a) s) after := by
  -- A change in place always ends with a tree, so it is the one that gives the tree here.
  have hlist := c.mapEach_inPlace (sites a) s
  have hfilled := (h c.inPlace).filled_run (.ok (), s)
  have hplace : (change c.inPlace).run (.ok (), s) =
      (((change c.inPlace).run (.ok (), s)).1, (c.each (sites a) s).result,
        (c.each (sites a) s).state) := by
    rw [(h c.inPlace).eq_filled, StateT.run_map, hlist]
    rfl
  rw [hlist] at hfilled
  refine ⟨_, hfilled.frame, hfilled.sites, hplace, ?_⟩
  rw [← hfilled.run_eq, (h c.orStop).eq_filled, ExceptT.run_map, StateT.run_map,
    c.mapEach_orStop]
  cases (c.each (sites a) s).result <;> rfl

/-- The changes of USING lists and of assignments call a callback as it would be called on the list
of the columns there, and change nothing else. -/
theorem sites_are_changed_in_turn (c : Callback σ ε) (s : σ) :
    (∀ t : TableWithJoins, ∃ after, c.Leaves s (t.alike unchanged anything)
      TableWithJoins.usingColumns (fun f => t.mapUsing f) (c.each t.usingColumns s) after) ∧
    ∀ as : List Assignment, ∃ after, c.Leaves s (alikeAssignments unchanged anything as)
      assignedColumns (fun f => mapAssigned f as) (c.each (assignedColumns as) s) after := by
  constructor
  · intro t
    exact c.exists_leaves (fun f => t.coupled f) s
  · intro as
    exact c.exists_leaves (fun f => coupled_assignments f as) s

end

end ColumnMask.Sql
