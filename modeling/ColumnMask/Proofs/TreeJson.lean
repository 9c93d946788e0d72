-- The numbers in the JSON notation of a tree are whole. They are the places in the text, and
-- the numbers that a tree keeps; the digits of a literal are written as text.
import ColumnMask.Proofs.JsonText
import ColumnMask.Sql.Encode

namespace ColumnMask

namespace Json

/-! ## Whole numbers in lists and objects -/

theorem wholeItems_iff {items : List Json} : WholeItems items ↔ ∀ item ∈ items, item.Whole := by
  induction items with
  | nil => simp [WholeItems]
  | cons item items ih => simp [WholeItems, ih]

theorem wholeFields_iff {fields : List (String × Json)} :
    WholeFields fields ↔ ∀ field ∈ fields, field.2.Whole := by
  induction fields with
  | nil => simp [WholeFields]
  | cons field fields ih => simp [WholeFields, ih]

theorem wholeItems_append {items more : List Json} (h : WholeItems items)
    (hmore : WholeItems more) : WholeItems (items ++ more) := by
  rw [wholeItems_iff] at *
  exact List.forall_mem_append.mpr ⟨h, hmore⟩

theorem wholeItems_map {α : Type} {f : α → Json} (h : ∀ a, (f a).Whole) (as : List α) :
    WholeItems (as.map f) := by
  rw [wholeItems_iff]
  exact List.forall_mem_map.mpr fun a _ => h a

theorem wholeFields_zip {names : List String} {values : List Json} (h : WholeItems values) :
    WholeFields (names.zip values) := by
  rw [wholeItems_iff] at h
  rw [wholeFields_iff]
  rintro ⟨name, value⟩ hmem
  exact h value (List.of_mem_zip hmem).2

theorem whole_ofNat (n : Nat) : (ofNat n).Whole := ⟨Int.ofNat n, rfl⟩

theorem whole_ofInt (n : Int) : (ofInt n).Whole := ⟨n, rfl⟩

end Json

namespace Sql

open Json

/-! ## Places, tokens and values -/

theorem Position.json_whole (p : Position) : p.json.Whole :=
  ⟨whole_ofNat p.line, whole_ofNat p.column, trivial⟩

theorem Span.json_whole (s : Span) : s.json.Whole :=
  ⟨s.start.json_whole, s.stop.json_whole, trivial⟩

theorem quoteJson_whole (quote : Option Char) : (quoteJson quote).Whole := by
  cases quote <;> trivial

theorem Ident.json_whole (i : Ident) : i.json.Whole :=
  ⟨trivial, quoteJson_whole i.quote, i.span.json_whole, trivial⟩

theorem dollarJson_whole (tag : Option String) (text : String) : (dollarJson tag text).Whole := by
  cases tag <;> exact ⟨⟨trivial, trivial, trivial⟩, trivial⟩

theorem Token.json_whole (t : Token) : t.json.Whole := by
  cases t with
  | word value quote key => exact ⟨⟨trivial, quoteJson_whole quote, trivial, trivial⟩, trivial⟩
  | dollar tag text => exact dollarJson_whole tag text
  | _ => simp [Token.json, numberJson, delimitedJson, Whole, WholeItems, WholeFields]

theorem Value.json_whole (v : Value) : v.json.Whole := by
  cases v with
  | dollar tag s => exact dollarJson_whole tag s
  | _ => simp [Value.json, numberJson, delimitedJson, Whole, WholeItems, WholeFields]

/-! ## Nodes -/

theorem Encoding.json_whole (e : Encoding) {parts : List Json} (h : WholeItems parts) :
    (e.json parts).Whole := by
  have hhead : (parts.headD .null).Whole := by
    cases parts with
    | nil => trivial
    | cons part parts => exact h.1
  cases e with
  | record fields => exact wholeFields_zip h
  | unit name => trivial
  | newtype name => exact ⟨hhead, trivial⟩
  | tuple name => exact ⟨h, trivial⟩
  | variant name fields => exact ⟨wholeFields_zip h, trivial⟩
  | array => exact h
  | bare => exact hhead

theorem TableRole.json_whole {tables : List Json} (h : WholeItems tables) (role : TableRole) :
    (role.json (.array tables)).Whole := by
  cases role with
  | usingList => exact h
  | _ => exact ⟨h, trivial⟩

mutual

theorem NamePart.json_whole : ∀ p : NamePart, p.json.Whole
  | .ident i => ⟨i.json_whole, trivial⟩
  | .call name args => ⟨⟨name.json_whole, jsonsOfParts_whole args, trivial⟩, trivial⟩

theorem jsonsOfName_whole : ∀ n, WholeItems (jsonsOfName n)
  | [] => trivial
  | p :: ps => ⟨p.json_whole, jsonsOfName_whole ps⟩

theorem jsonsOfNames_whole : ∀ ns, WholeItems (jsonsOfNames ns)
  | [] => trivial
  | n :: ns => ⟨jsonsOfName_whole n, jsonsOfNames_whole ns⟩

theorem Expr.json_whole : ∀ e : Expr, e.json.Whole
  | .column i => ⟨i.json_whole, trivial⟩
  | .qualified is => ⟨wholeItems_map Ident.json_whole is, trivial⟩
  | .form f ps => f.encoding.json_whole (jsonsOfParts_whole ps)

theorem Query.json_whole : ∀ q : Query, q.json.Whole
  | .mk ctes body clauses =>
    Form.query.encoding.json_whole ⟨ctes.json_whole, body.json_whole, jsonsOfParts_whole clauses⟩

theorem Body.json_whole : ∀ b : Body, b.json.Whole
  | .select s => s.json_whole
  | .query q => ⟨q.json_whole, trivial⟩
  | .setOperation left operator quantifier right => by
    have hq := quantifier.json_whole
    refine ⟨⟨trivial, ?_, left.json_whole, right.json_whole, trivial⟩, trivial⟩
    split
    · trivial
    · exact hq
  | .statement s => by
    have hs := s.json_whole
    rw [Body.json]
    split
    · rename_i name value heq
      rw [heq] at hs
      exact ⟨⟨hs.1, trivial⟩, trivial⟩
    · exact hs
  | .form f ps => f.encoding.json_whole (jsonsOfParts_whole ps)

theorem Select.json_whole : ∀ s : Select, s.json.Whole
  | .mk flavor mode head projection middle tables clauses => by
    have hparts : WholeItems (jsonsOfParts head ++ .array (jsonsOfItems projection) ::
        jsonsOfParts middle ++ .array (jsonsOfTables tables) :: jsonsOfParts clauses) :=
      wholeItems_append (wholeItems_append (jsonsOfParts_whole head)
        ⟨jsonsOfItems_whole projection, jsonsOfParts_whole middle⟩)
        ⟨jsonsOfTables_whole tables, jsonsOfParts_whole clauses⟩
    rw [wholeItems_iff] at hparts
    refine selectEncoding.json_whole (wholeItems_append (wholeItems_append (wholeItems_append
      (wholeItems_iff.mpr ?_) ⟨mode.json_whole, trivial⟩) (wholeItems_iff.mpr ?_))
      ⟨trivial, trivial⟩)
    · exact fun j hj => hparts j (List.mem_of_mem_take hj)
    · exact fun j hj => hparts j (List.mem_of_mem_drop hj)

theorem SelectItem.json_whole : ∀ i : SelectItem, i.json.Whole
  | .plain e => ⟨e.json_whole, trivial⟩
  | .aliased e label => ⟨⟨e.json_whole, label.json_whole, trivial⟩, trivial⟩
  | .form f ps => f.encoding.json_whole (jsonsOfParts_whole ps)

theorem jsonsOfItems_whole : ∀ is, WholeItems (jsonsOfItems is)
  | [] => trivial
  | i :: is => ⟨i.json_whole, jsonsOfItems_whole is⟩

theorem Alias.json_whole : ∀ a : Alias, a.json.Whole
  | .absent => trivial
  | .named _ name columns => ⟨trivial, name.json_whole, jsonsOfParts_whole columns, trivial⟩

theorem TableFactor.json_whole : ∀ t : TableFactor, t.json.Whole
  | .table name label details => Form.table.encoding.json_whole
    ⟨jsonsOfName_whole name, label.json_whole, jsonsOfParts_whole details⟩
  | .derived _ q label => ⟨⟨trivial, q.json_whole, label.json_whole, trivial⟩, trivial⟩
  | .nested t label => ⟨⟨t.json_whole, label.json_whole, trivial⟩, trivial⟩
  | .form f ps => f.encoding.json_whole (jsonsOfParts_whole ps)

theorem TableWithJoins.json_whole : ∀ t : TableWithJoins, t.json.Whole
  | .mk relation joins => ⟨relation.json_whole, jsonsOfJoins_whole joins, trivial⟩

theorem jsonsOfTables_whole : ∀ ts, WholeItems (jsonsOfTables ts)
  | [] => trivial
  | t :: ts => ⟨t.json_whole, jsonsOfTables_whole ts⟩

theorem Join.json_whole : ∀ j : Join, j.json.Whole
  | .constrained relation _ _ on =>
    ⟨relation.json_whole, trivial, ⟨on.json_whole, trivial⟩, trivial⟩
  | .asOf relation _ condition on =>
    ⟨relation.json_whole, trivial, ⟨⟨condition.json_whole, on.json_whole, trivial⟩, trivial⟩,
      trivial⟩
  | .apply relation _ _ => ⟨relation.json_whole, trivial, trivial, trivial⟩

theorem jsonsOfJoins_whole : ∀ js, WholeItems (jsonsOfJoins js)
  | [] => trivial
  | j :: js => ⟨j.json_whole, jsonsOfJoins_whole js⟩

theorem JoinConstraint.json_whole : ∀ o : JoinConstraint, o.json.Whole
  | .on condition => ⟨condition.json_whole, trivial⟩
  | .using names => ⟨jsonsOfNames_whole names, trivial⟩
  | .natural => trivial
  | .absent => trivial

theorem Target.json_whole : ∀ t : Target, t.json.Whole
  | .name n => ⟨jsonsOfName_whole n, trivial⟩
  | .tuple ns => ⟨jsonsOfNames_whole ns, trivial⟩

theorem Assignment.json_whole : ∀ a : Assignment, a.json.Whole
  | .mk target value => ⟨target.json_whole, value.json_whole, trivial⟩

theorem jsonsOfAssignments_whole : ∀ as, WholeItems (jsonsOfAssignments as)
  | [] => trivial
  | a :: as => ⟨a.json_whole, jsonsOfAssignments_whole as⟩

theorem ConflictTarget.json_whole : ∀ t : ConflictTarget, t.json.Whole
  | .absent => trivial
  | .columns is => ⟨wholeItems_map Ident.json_whole is, trivial⟩
  | .constraint n => ⟨jsonsOfName_whole n, trivial⟩

theorem OnInsert.json_whole : ∀ o : OnInsert, o.json.Whole
  | .absent => trivial
  | .duplicateKey assignments => ⟨jsonsOfAssignments_whole assignments, trivial⟩
  | .conflictNothing target => ⟨⟨target.json_whole, trivial, trivial⟩, trivial⟩
  | .conflictUpdate target assignments condition =>
    ⟨⟨target.json_whole, ⟨⟨jsonsOfAssignments_whole assignments, condition.json_whole, trivial⟩,
      trivial⟩, trivial⟩, trivial⟩

theorem TableClause.json_whole : ∀ t : TableClause, t.json.Whole
  | .absent => trivial
  | .present role tables => TableRole.json_whole (jsonsOfTables_whole tables) role

theorem Statement.json_whole : ∀ s : Statement, s.json.Whole
  | .query q => ⟨q.json_whole, trivial⟩
  | .insert head columns middle on clauses =>
    insertEncoding.json_whole (wholeItems_append (wholeItems_append (jsonsOfParts_whole head)
      ⟨wholeItems_map Ident.json_whole columns, jsonsOfParts_whole middle⟩)
      ⟨on.json_whole, jsonsOfParts_whole clauses⟩)
  | .update head table assignments source clauses =>
    Form.update.encoding.json_whole (wholeItems_append (wholeItems_append (jsonsOfParts_whole head)
      ⟨table.json_whole, jsonsOfAssignments_whole assignments, source.json_whole, trivial⟩)
      (jsonsOfParts_whole clauses))
  | .delete head source others clauses =>
    Form.delete.encoding.json_whole (wholeItems_append (wholeItems_append (jsonsOfParts_whole head)
      ⟨source.json_whole, others.json_whole, trivial⟩) (jsonsOfParts_whole clauses))
  | .other f ps => f.encoding.json_whole (jsonsOfParts_whole ps)

theorem Part.json_whole : ∀ p : Part, p.json.Whole
  | .absent => trivial
  | .flag _ => trivial
  | .number n => whole_ofInt n
  | .text _ => trivial
  | .choice _ _ => trivial
  | .value v => v.json_whole
  | .token t => t.json_whole
  | .span s => s.json_whole
  | .ident i => i.json_whole
  | .name n => jsonsOfName_whole n
  | .relation n => jsonsOfName_whole n
  | .expr e => e.json_whole
  | .query q => q.json_whole
  | .item i => i.json_whole
  | .factor t => t.json_whole
  | .tables t => t.json_whole
  | .join j => j.json_whole
  | .assignment a => a.json_whole
  | .label a => a.json_whole
  | .statement s => s.json_whole
  | .list ps => jsonsOfParts_whole ps
  | .node f ps => f.encoding.json_whole (jsonsOfParts_whole ps)

theorem jsonsOfParts_whole : ∀ ps, WholeItems (jsonsOfParts ps)
  | [] => trivial
  | p :: ps => ⟨p.json_whole, jsonsOfParts_whole ps⟩

end

end Sql

end ColumnMask
