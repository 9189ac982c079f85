import Reparse.Proofs.Ast.Boundary
import Reparse.Proofs.Ast.Composition
import Reparse.Proofs.Ast.NormalForm

namespace Reparse

namespace Ast

namespace Node

/-- A key that is told by its text, and whether it is a name. -/
inductive IsKey : Node → Bool → String → Prop
  | identifier {span : Option Span} {fields metadata : List (String × Value)} {name : String}
      (single : semanticEntries fields = [("name", .text name)]) :
      IsKey ⟨.identifier, span, fields, metadata⟩ true name
  | string {span : Option Span} {fields metadata : List (String × Value)} {text : String}
      (single : semanticEntries fields = [("value", .text text)]) :
      IsKey ⟨.stringLiteral, span, fields, metadata⟩ false text
  | number {span : Option Span} {fields metadata : List (String × Value)} {value : Binary64}
      (single : semanticEntries fields = [("value", .number value)]) :
      IsKey ⟨.numericLiteral, span, fields, metadata⟩ false (String.ofList value.scriptText)

structure IsMember (node : Node) (named : Bool) (text : String) : Prop where
  kind : node.kind.isKeyedMember = true
  ordered : Dictionary.Ordered node.fields
  key : ∃ key, node.field? "key" = some (.node key) ∧ key.IsKey named text

/-- Two nodes of one kind that differ in their keys at most, as far as comparison sees. -/
structure SameBesideKey (left right : Node) : Prop where
  kind : left.kind = right.kind
  others : ∀ name, name ≠ "key" → isMetadataName name = false →
    (left.field? name).map Value.canonicalText = (right.field? name).map Value.canonicalText

def spelledKey (named : Bool) (text : String) : Node :=
  if named then ⟨.identifier, none, [("name", .text text)], []⟩ else stringLiteral text

def keepsNames (node : Node) : Bool :=
  node.flag "shorthand" || node.flag "computed"

theorem plainText_of_semanticEntries {node other : Node} (kinds : node.kind = other.kind)
    (same : semanticEntries node.fields = semanticEntries other.fields) :
    node.plainText = other.plainText := by
  rw [plainText_eq_iff, fieldTexts, fieldTexts, kinds, same]
  exact ⟨rfl, rfl⟩

theorem plainText_spelledKey_inj {leftNamed rightNamed : Bool} {leftText rightText : String} :
    (spelledKey leftNamed leftText).plainText = (spelledKey rightNamed rightText).plainText ↔
      leftText = rightText ∧ leftNamed = rightNamed := by
  constructor
  · intro same
    obtain ⟨kinds, fields⟩ := plainText_eq_iff.1 same
    have names : leftNamed = rightNamed := by
      cases leftNamed <;> cases rightNamed <;> simp_all [spelledKey, stringLiteral, bare, Kind.name]
    subst names
    have texts : Quoted.encode leftText.toList ++ [] = Quoted.encode rightText.toList ++ [] := by
      cases leftNamed <;>
        simpa [spelledKey, stringLiteral, fieldTexts, semanticEntries, isMetadataName,
          metadataNames, Value.plainText] using fields
    exact ⟨String.toList_inj.1 (Quoted.encode_append_inj texts).1, rfl⟩
  · rintro ⟨rfl, rfl⟩
    rfl

end Node

theorem semanticEntries_entriesNormalForm (entries : List (String × Value)) :
    semanticEntries (entriesNormalForm entries) = entriesNormalForm (semanticEntries entries) := by
  rw [entriesNormalForm_eq_map, entriesNormalForm_eq_map, semanticEntries, semanticEntries,
    List.filter_map]
  rfl

theorem Value.bool?_normalForm (value : Value) : value.normalForm.bool? = value.bool? := by
  cases value <;> rfl

namespace Node

variable {node key left right : Node} {named leftNamed rightNamed : Bool}
  {text leftText rightText : String}

theorem IsKey.normalForm (isKey : key.IsKey named text) : key.normalForm.IsKey named text := by
  cases isKey with
  | identifier single =>
      refine .identifier ?_
      rw [semanticEntries_entriesNormalForm, single]
      rfl
  | string single =>
      refine .string ?_
      rw [semanticEntries_entriesNormalForm, single]
      rfl
  | number single =>
      refine .number ?_
      rw [semanticEntries_entriesNormalForm, single]
      rfl

/-- A key is spelled as a string, unless it is one or is a name to keep. -/
theorem IsKey.keyText? (isKey : key.IsKey named text) (keeps : Bool) :
    (keyText? (!keeps) key = some text ∧ (named && keeps) = false) ∨
      (keyText? (!keeps) key = none ∧
        key.plainText = (spelledKey (named && keeps) text).plainText) := by
  cases isKey with
  | identifier single =>
      cases keeps with
      | true =>
          refine .inr ⟨rfl, plainText_of_semanticEntries rfl ?_⟩
          rw [single]
          rfl
      | false =>
          refine .inl ⟨?_, rfl⟩
          simp [Node.keyText?, field?, find?_of_semanticEntries single, Value.text?]
  | string single =>
      refine .inr ⟨rfl, plainText_of_semanticEntries rfl ?_⟩
      rw [single]
      rfl
  | number single =>
      refine .inl ⟨?_, rfl⟩
      simp [Node.keyText?, field?, find?_of_semanticEntries single, Value.number?]

def settled (node : Node) : Node :=
  { node with fields := entriesNormalForm node.fields }

theorem normalForm_of_member (member : node.kind.isKeyedMember = true) :
    node.normalForm = node.settled.spellKey := by
  cases node with
  | mk kind span fields metadata =>
      have noSequence : kind ≠ .sequenceExpression := by
        rintro rfl
        contradiction
      rw [Node.normalForm, reshape, if_neg noSequence, if_pos member]
      rfl

theorem field?_settled (node : Node) (name : String) :
    node.settled.field? name = (node.field? name).map Value.normalForm :=
  find?_entriesNormalForm node.fields name

theorem flag_settled (node : Node) (name : String) :
    node.settled.flag name = node.flag name := by
  rw [flag, flag, field?_settled]
  cases node.field? name with
  | none => rfl
  | some value => simp [value.bool?_normalForm]

theorem field?_spellKey_of_ne (node : Node) {name : String} (different : name ≠ "key") :
    node.spellKey.field? name = node.field? name := by
  rw [spellKey_eq]
  split
  · rw [field?, Dictionary.find?_replace, if_neg (Ne.symm different)]
    rfl
  · rfl

theorem plainText_field?_of_ne (member : node.kind.isKeyedMember = true) {name : String}
    (different : name ≠ "key") :
    (node.normalForm.field? name).map Value.plainText =
      ((node.field? name).map Value.canonicalText).map String.toList := by
  rw [normalForm_of_member member, field?_spellKey_of_ne _ different, field?_settled,
    Option.map_map, Option.map_map]
  cases node.field? name with
  | none => rfl
  | some value => simp [Value.canonicalText]

theorem ordered_normalForm (isMember : node.IsMember named text) :
    Dictionary.Ordered node.normalForm.fields := by
  rw [Dictionary.ordered_iff_names, names_normalForm, ← Dictionary.ordered_iff_names]
  exact isMember.ordered

/-- In normal form, the key of a member has the text of what its own text is spelled as. -/
theorem IsMember.plainText_key (isMember : node.IsMember named text) :
    (node.normalForm.field? "key").map Value.plainText =
      some (spelledKey (named && node.keepsNames) text).plainText := by
  obtain ⟨key, found, isKey⟩ := isMember.key
  have inside : node.settled.field? "key" = some (.node key.normalForm) := by
    rw [field?_settled, found]
    rfl
  have spelling : node.settled.spelling? = Node.keyText? (!node.keepsNames) key.normalForm := by
    rw [spelling?, fieldNode?_eq_some_iff.2 inside, flag_settled, flag_settled, keepsNames,
      Bool.not_or]
    rfl
  -- The rule for members comes last, so it finds the key in normal form.
  rw [normalForm_of_member isMember.kind, spellKey_eq, spelling]
  rw [field?] at inside
  rcases isKey.normalForm.keyText? node.keepsNames with ⟨spelled, string⟩ | ⟨kept, texts⟩
  · rw [spelled, string, field?, Dictionary.find?_replace, if_pos rfl, inside]
    rfl
  · rw [kept, field?, inside, ← texts]
    rfl

theorem canonicalText_eq_iff_fieldTexts {left right : Node} :
    left.canonicalText = right.canonicalText ↔
      left.kind.name = right.kind.name ∧
        fieldTexts left.normalForm.fields = fieldTexts right.normalForm.fields := by
  rw [canonicalText_eq, canonicalText_eq, String.ofList_inj, plainText_eq_iff, kind_normalForm,
    kind_normalForm]

theorem canonicalText_eq_iff_spelledKey (isLeft : left.IsMember leftNamed leftText)
    (isRight : right.IsMember rightNamed rightText) (same : left.SameBesideKey right) :
    left.canonicalText = right.canonicalText ↔
      (spelledKey (leftNamed && left.keepsNames) leftText).plainText =
        (spelledKey (rightNamed && right.keepsNames) rightText).plainText := by
  have semantic : ¬isMetadataName "key" = true := by decide
  have leftKey := isLeft.plainText_key
  have rightKey := isRight.plainText_key
  rw [field?] at leftKey rightKey
  rw [canonicalText_eq_iff_fieldTexts]
  constructor
  · rintro ⟨-, fields⟩
    have found := find?_fieldTexts left.normalForm.fields "key"
    rw [fields, find?_fieldTexts, if_neg semantic, if_neg semantic, leftKey, rightKey] at found
    exact (Option.some.inj found).symm
  · intro keys
    refine ⟨congrArg Kind.name same.kind, ?_⟩
    apply Dictionary.ext (ordered_fieldTexts (ordered_normalForm isLeft))
      (ordered_fieldTexts (ordered_normalForm isRight))
    intro name
    rw [find?_fieldTexts, find?_fieldTexts]
    split
    · rfl
    · next shown =>
        by_cases isKey : name = "key"
        · subst isKey
          rw [leftKey, rightKey, keys]
        · have others := same.others name isKey (by simpa using shown)
          have leftField := plainText_field?_of_ne isLeft.kind isKey
          have rightField := plainText_field?_of_ne isRight.kind isKey
          rw [field?] at leftField rightField
          rw [leftField, rightField, others]

end Node

theorem Value.bool?_of_plainText {left right : Value} (same : left.plainText = right.plainText) :
    left.bool? = right.bool? := by
  have shapes : left.shape = right.shape := by
    have texts : left.plainText ++ [] = right.plainText ++ [] := by rw [same]
    exact shape_eq_of_plainText texts
  cases left with
  | bool left =>
      cases right with
      | bool right => cases left <;> cases right <;> simp_all [plainText]
      | _ => simp [shape] at shapes
  | _ =>
      cases right with
      | bool right => simp [shape] at shapes
      | _ => rfl

theorem bool?_of_canonicalText {left right : Option Value}
    (same : left.map Value.canonicalText = right.map Value.canonicalText) :
    (left >>= Value.bool?) = (right >>= Value.bool?) := by
  cases left with
  | none =>
      cases right with
      | none => rfl
      | some right => contradiction
  | some left =>
      cases right with
      | none => contradiction
      | some right =>
          have texts := Value.bool?_of_plainText (String.ofList_inj.1 (Option.some.inj same))
          rwa [Value.bool?_normalForm, Value.bool?_normalForm] at texts

namespace Node

variable {left right : Node} {leftNamed rightNamed : Bool} {leftText rightText : String}

theorem SameBesideKey.keepsNames (same : left.SameBesideKey right) :
    left.keepsNames = right.keepsNames := by
  have shorthand := bool?_of_canonicalText (same.others "shorthand" (by decide) (by decide))
  have computed := bool?_of_canonicalText (same.others "computed" (by decide) (by decide))
  rw [Node.keepsNames, Node.keepsNames, flag, flag, flag, flag, shorthand, computed]

theorem bool?_of_members (isLeft : left.kind.isKeyedMember = true)
    (isRight : right.kind.isKeyedMember = true)
    (same : left.canonicalText = right.canonicalText) {name : String} (different : name ≠ "key")
    (semantic : isMetadataName name = false) :
    (left.field? name >>= Value.bool?) = (right.field? name >>= Value.bool?) := by
  have texts := congrArg (Dictionary.find? · name) (canonicalText_eq_iff_fieldTexts.1 same).2
  have shown : ¬isMetadataName name = true := by simp [semantic]
  have leftField := plainText_field?_of_ne isLeft different
  have rightField := plainText_field?_of_ne isRight different
  rw [field?] at leftField rightField
  simp only [find?_fieldTexts, if_neg shown] at texts
  rw [leftField, rightField] at texts
  exact bool?_of_canonicalText (Option.map_injective (fun _ _ => String.toList_inj.1) texts)

end Node

/-- Keys count by their texts, and in members that are shorthand or computed also by whether they
are names.  Members that differ in one of these two flags are told apart, whatever their keys. -/
theorem canonicalText_eq_iff_key :
    (∀ (left right : Node) (leftNamed rightNamed : Bool) (leftText rightText : String),
      left.IsMember leftNamed leftText → right.IsMember rightNamed rightText →
        left.SameBesideKey right →
          (left.flag "shorthand" = false → left.flag "computed" = false →
            (left.canonicalText = right.canonicalText ↔ leftText = rightText)) ∧
          (left.flag "shorthand" = true ∨ left.flag "computed" = true →
            (left.canonicalText = right.canonicalText ↔
              leftText = rightText ∧ leftNamed = rightNamed))) ∧
    ∀ (left right : Node), left.kind.isKeyedMember = true → right.kind.isKeyedMember = true →
      ∀ name ∈ ["shorthand", "computed"],
        (left.field? name >>= Value.bool?) ≠ (right.field? name >>= Value.bool?) →
          left.canonicalText ≠ right.canonicalText := by
  constructor
  · intro left right leftNamed rightNamed leftText rightText isLeft isRight same
    have texts := Node.canonicalText_eq_iff_spelledKey isLeft isRight same
    rw [Node.plainText_spelledKey_inj, ← same.keepsNames] at texts
    constructor
    · intro shorthand computed
      rw [texts, Node.keepsNames, shorthand, computed]
      simp
    · intro marked
      rw [texts, Node.keepsNames, Bool.or_eq_true_iff.2 marked]
      simp
  · intro left right isLeft isRight name flag differ same
    refine differ (Node.bool?_of_members isLeft isRight same ?_ ?_)
    · rintro rfl
      exact absurd flag (by decide)
    · have flags : ∀ name ∈ ["shorthand", "computed"], isMetadataName name = false := by decide
      exact flags name flag

def Node.computedProperty (key : Node) : Node :=
  ⟨.objectProperty, none, [("computed", .bool true), ("key", .node key)], []⟩

theorem Node.IsKey.computedProperty {key : Node} {named : Bool} {text : String}
    (isKey : key.IsKey named text) : (Node.computedProperty key).IsMember named text where
  kind := rfl
  ordered := by
    have names : "computed" < "key" := by decide
    exact List.pairwise_pair.2 names
  key := ⟨key, rfl, isKey⟩

theorem Node.sameBesideKey_computedProperty (left right : Node) :
    (Node.computedProperty left).SameBesideKey (Node.computedProperty right) where
  kind := rfl
  others := by
    intro name different _
    simp [Node.computedProperty, Node.field?, Dictionary.find?_cons, Ne.symm different]

theorem canonicalText_eq_iff_key_computed :
    (Node.computedProperty
        ⟨.numericLiteral, some ⟨1, 3⟩, [("value", .number (.ofCode true 0))], []⟩).canonicalText =
      (Node.computedProperty (Node.stringLiteral "0")).canonicalText ∧
    (Node.computedProperty
        ⟨.identifier, some ⟨1, 2⟩, [("name", .text "a")], []⟩).canonicalText ≠
      (Node.computedProperty (Node.stringLiteral "a")).canonicalText := by
  have string (text : String) : (Node.stringLiteral text).IsKey false text := .string rfl
  have zero : String.ofList (Binary64.ofCode true 0).scriptText = "0" := by
    rw [Binary64.scriptText_of_isZero (by decide)]
  constructor
  · exact ((canonicalText_eq_iff_key.1 _ _ _ _ _ _ (Node.IsKey.number rfl).computedProperty
      (string "0").computedProperty (Node.sameBesideKey_computedProperty _ _)).2
      (.inr rfl)).2 ⟨zero, rfl⟩
  · intro same
    have names : true = false := (((canonicalText_eq_iff_key.1 _ _ _ _ _ _
      (Node.IsKey.identifier rfl).computedProperty (string "a").computedProperty
      (Node.sameBesideKey_computedProperty _ _)).2 (.inr rfl)).1 same).2
    exact Bool.noConfusion names

end Ast

end Reparse
