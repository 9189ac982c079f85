import Reparse.Ast.CanonicalText
import Reparse.Proofs.Binary64.NumeralText

/-!
What a reader sees of a tree.

A reader may pass over positions, metadata and the entries under certain names, and may take one
number for another.  The rules of the normal form depend on nothing that comparison passes over, so
the canonical text is the same for every reader who passes over that much at most and takes numbers
by their texts.
-/

namespace Reparse

namespace Ast

/-- The names a reader passes over, and the numbers that numbers are taken for. -/
structure Screen where
  hidden : String → Bool
  number : Binary64 → Binary64

mutual

def Node.seen (screen : Screen) : Node → Node
  | ⟨kind, _, fields, _⟩ => ⟨kind, none, entriesSeen screen fields, []⟩

def Value.seen (screen : Screen) : Value → Value
  | .number value => .number (screen.number value)
  | .list items => .list (itemsSeen screen items)
  | .map entries => .map (entriesSeen screen entries)
  | .node node => .node (node.seen screen)
  | value => value

def itemsSeen (screen : Screen) : List Value → List Value
  | [] => []
  | item :: rest => item.seen screen :: itemsSeen screen rest

def entriesSeen (screen : Screen) : List (String × Value) → List (String × Value)
  | [] => []
  | (name, value) :: rest =>
      if screen.hidden name then entriesSeen screen rest
      else (name, value.seen screen) :: entriesSeen screen rest

end

/-- Nothing is passed over but what comparison passes over anyway, and numbers keep their texts. -/
structure Screen.Faithful (screen : Screen) : Prop where
  hidden : ∀ name, screen.hidden name = true → isMetadataName name = true
  number : ∀ x, (screen.number x).scriptText = x.scriptText

variable {screen : Screen}

theorem Screen.Faithful.visible (faithful : screen.Faithful) (name : String)
    (semantic : isMetadataName name = false) : screen.hidden name = false := by
  cases shown : screen.hidden name with
  | false => rfl
  | true =>
      rw [faithful.hidden name shown] at semantic
      contradiction

theorem find?_entriesSeen (entries : List (String × Value)) {name : String}
    (visible : screen.hidden name = false) :
    Dictionary.find? (entriesSeen screen entries) name =
      (Dictionary.find? entries name).map (Value.seen screen) := by
  induction entries with
  | nil => rfl
  | cons entry rest induction =>
      obtain ⟨key, value⟩ := entry
      simp only [entriesSeen, Dictionary.find?_cons]
      split
      · next secret =>
          have different : key ≠ name := by
            rintro rfl
            rw [visible] at secret
            contradiction
          rw [if_neg different, induction]
      · rw [Dictionary.find?_cons, induction]
        split
        · rfl
        · rfl

theorem Node.field?_seen (node : Node) {name : String} (visible : screen.hidden name = false) :
    (node.seen screen).field? name = (node.field? name).map (Value.seen screen) := by
  cases node with
  | mk kind span fields metadata => exact find?_entriesSeen fields visible

theorem Node.kind_seen (node : Node) : (node.seen screen).kind = node.kind := by
  cases node
  rfl

theorem entriesSeen_replace (entries : List (String × Value)) {name : String} (value : Value)
    (visible : screen.hidden name = false) :
    entriesSeen screen (Dictionary.replace entries name value) =
      Dictionary.replace (entriesSeen screen entries) name (value.seen screen) := by
  induction entries with
  | nil => rfl
  | cons entry rest induction =>
      obtain ⟨key, old⟩ := entry
      simp only [Dictionary.replace]
      by_cases same : key = name
      · subst same
        simp [entriesSeen, visible, Dictionary.replace]
      · rw [if_neg same]
        simp only [entriesSeen]
        split
        · exact induction
        · simp [Dictionary.replace, same, induction]

theorem Value.node?_seen (value : Value) :
    (value.seen screen).node? = value.node?.map (Node.seen screen) := by
  cases value <;> rfl

theorem Value.text?_seen (value : Value) : (value.seen screen).text? = value.text? := by
  cases value <;> rfl

theorem Value.bool?_seen (value : Value) : (value.seen screen).bool? = value.bool? := by
  cases value <;> rfl

theorem Node.fieldNode?_seen (node : Node) {name : String} (visible : screen.hidden name = false) :
    (node.seen screen).fieldNode? name = (node.fieldNode? name).map (Node.seen screen) := by
  simp only [fieldNode?, node.field?_seen visible]
  cases node.field? name with
  | none => rfl
  | some value => exact value.node?_seen

theorem Node.flag_seen (node : Node) {name : String} (visible : screen.hidden name = false) :
    (node.seen screen).flag name = node.flag name := by
  simp only [flag, node.field?_seen visible]
  cases node.field? name with
  | none => rfl
  | some value => simp [value.bool?_seen]

theorem Node.itemsSeen_leftNest (faithful : screen.Faithful) (first second : Value)
    (rest : List Value) :
    itemsSeen screen (leftNest first second rest) =
      leftNest (first.seen screen) (second.seen screen) (itemsSeen screen rest) := by
  induction rest generalizing first second with
  | nil => rfl
  | cons next rest induction =>
      have visible : screen.hidden "expressions" = false := faithful.visible _ (by decide)
      have pair : (Value.node (sequence [first, second])).seen screen =
          .node (sequence [first.seen screen, second.seen screen]) := by
        simp [sequence, bare, Value.seen, seen, entriesSeen, itemsSeen, visible]
      simp only [leftNest, itemsSeen]
      rw [induction, pair]

theorem Node.seen_withFields (node : Node) (fields : List (String × Value)) :
    ({ node with fields := fields }.seen screen) =
      { node.seen screen with fields := entriesSeen screen fields } := by
  cases node
  rfl

theorem Node.fields_seen (node : Node) :
    (node.seen screen).fields = entriesSeen screen node.fields := by
  cases node
  rfl

theorem Node.seen_nestExpressions (faithful : screen.Faithful) (node : Node) :
    node.nestExpressions.seen screen = (node.seen screen).nestExpressions := by
  have visible : screen.hidden "expressions" = false := faithful.visible _ (by decide)
  simp only [nestExpressions, node.field?_seen visible]
  cases found : node.field? "expressions" with
  | none => rfl
  | some value =>
      cases value with
      | list items =>
          match items with
          | first :: second :: third :: rest =>
              simp only [seen_withFields, fields_seen, entriesSeen_replace _ _ visible,
                Value.seen, itemsSeen_leftNest faithful, itemsSeen, Option.map_some]
          | [] | [_] | [_, _] => rfl
      | null | bool | number | text | map | node => rfl

theorem Node.keyText?_seen (faithful : screen.Faithful) (plain : Bool) (key : Node) :
    keyText? plain (key.seen screen) = keyText? plain key := by
  have texts : ((key.seen screen).field? "name" >>= Value.text?) =
      (key.field? "name" >>= Value.text?) := by
    rw [key.field?_seen (faithful.visible "name" (by decide))]
    cases key.field? "name" with
    | none => rfl
    | some value => exact value.text?_seen
  have numbers :
      ((key.seen screen).field? "value" >>= Value.number?).map
          (fun value => String.ofList value.scriptText) =
        (key.field? "value" >>= Value.number?).map
          (fun value => String.ofList value.scriptText) := by
    rw [key.field?_seen (faithful.visible "value" (by decide))]
    cases key.field? "value" with
    | none => rfl
    | some value =>
        cases value with
        | number x => exact congrArg (some <| String.ofList ·) (faithful.number x)
        | _ => rfl
  rw [keyText?, keyText?, key.kind_seen, texts, numbers]

theorem Node.seen_spellKey (faithful : screen.Faithful) (node : Node) :
    node.spellKey.seen screen = (node.seen screen).spellKey := by
  have key : screen.hidden "key" = false := faithful.visible _ (by decide)
  have value : screen.hidden "value" = false := faithful.visible _ (by decide)
  have spelled (plain : Bool) :
      ((node.seen screen).fieldNode? "key" >>= keyText? plain) =
        (node.fieldNode? "key" >>= keyText? plain) := by
    rw [node.fieldNode?_seen key]
    cases node.fieldNode? "key" with
    | none => rfl
    | some inner => exact inner.keyText?_seen faithful plain
  simp only [spellKey, spelled, node.flag_seen (faithful.visible "shorthand" (by decide)),
    node.flag_seen (faithful.visible "computed" (by decide))]
  cases node.fieldNode? "key" >>= keyText? (!node.flag "shorthand" && !node.flag "computed") with
  | none => rfl
  | some text =>
      -- The new key has nothing to hide.
      have literal :
          (Value.node (stringLiteral text)).seen screen = .node (stringLiteral text) := by
        simp [Value.seen, seen, stringLiteral, bare, entriesSeen, value]
      simp only [seen_withFields, fields_seen, entriesSeen_replace _ _ key, literal]

theorem Node.seen_reshape (faithful : screen.Faithful) (node : Node) :
    node.reshape.seen screen = (node.seen screen).reshape := by
  simp only [reshape, node.kind_seen]
  split
  · exact node.seen_nestExpressions faithful
  · split
    · exact node.seen_spellKey faithful
    · rfl

mutual

/-- The normal form of what is seen is what is seen of the normal form. -/
theorem Node.seen_normalForm (faithful : screen.Faithful) (node : Node) :
    node.normalForm.seen screen = (node.seen screen).normalForm := by
  cases node with
  | mk kind span fields metadata =>
      simp only [Node.normalForm, Node.seen_reshape faithful, Node.seen,
        entriesSeen_normalForm faithful fields]

theorem Value.seen_normalForm (faithful : screen.Faithful) (value : Value) :
    value.normalForm.seen screen = (value.seen screen).normalForm := by
  cases value with
  | list items => simp [Value.normalForm, Value.seen, itemsSeen_normalForm faithful items]
  | map entries => simp [Value.normalForm, Value.seen, entriesSeen_normalForm faithful entries]
  | node node => simp [Value.normalForm, Value.seen, Node.seen_normalForm faithful node]
  | null | bool | number | text => rfl

theorem itemsSeen_normalForm (faithful : screen.Faithful) (items : List Value) :
    itemsSeen screen (itemsNormalForm items) = itemsNormalForm (itemsSeen screen items) := by
  match items with
  | [] => rfl
  | item :: rest =>
      simp [itemsNormalForm, itemsSeen, Value.seen_normalForm faithful item,
        itemsSeen_normalForm faithful rest]

theorem entriesSeen_normalForm (faithful : screen.Faithful) (entries : List (String × Value)) :
    entriesSeen screen (entriesNormalForm entries) =
      entriesNormalForm (entriesSeen screen entries) := by
  match entries with
  | [] => rfl
  | (name, value) :: rest =>
      simp only [entriesNormalForm, entriesSeen]
      split
      · exact entriesSeen_normalForm faithful rest
      · simp [entriesNormalForm, Value.seen_normalForm faithful value,
          entriesSeen_normalForm faithful rest]

end

mutual

/-- What is not seen has no text. -/
theorem Node.plainText_seen (faithful : screen.Faithful) (node : Node) :
    (node.seen screen).plainText = node.plainText := by
  cases node with
  | mk kind span fields metadata =>
      simp [Node.seen, Node.plainText, fieldsText_seen faithful fields]

theorem Value.plainText_seen (faithful : screen.Faithful) (value : Value) :
    (value.seen screen).plainText = value.plainText := by
  cases value with
  | number x => exact faithful.number x
  | list items => simp [Value.seen, Value.plainText, itemsText_seen faithful items]
  | map entries => simp [Value.seen, Value.plainText, entriesText_seen faithful entries]
  | node node => simp [Value.seen, Value.plainText, Node.plainText_seen faithful node]
  | null | bool | text => rfl

theorem itemsText_seen (faithful : screen.Faithful) (items : List Value) :
    itemsText (itemsSeen screen items) = itemsText items := by
  match items with
  | [] => rfl
  | [item] => simp [itemsSeen, itemsText, Value.plainText_seen faithful item]
  | item :: next :: rest =>
      have others := itemsText_seen faithful (next :: rest)
      simp only [itemsSeen] at others
      simp [itemsSeen, itemsText, Value.plainText_seen faithful item, others]

theorem fieldsText_seen (faithful : screen.Faithful) (entries : List (String × Value)) :
    fieldsText (entriesSeen screen entries) = fieldsText entries := by
  match entries with
  | [] => rfl
  | (name, value) :: rest =>
      simp only [entriesSeen, fieldsText]
      split
      · next secret =>
          rw [if_pos (faithful.hidden name secret)]
          exact fieldsText_seen faithful rest
      · simp [fieldsText, Value.plainText_seen faithful value, fieldsText_seen faithful rest]

theorem entriesText_seen (faithful : screen.Faithful) (entries : List (String × Value)) :
    entriesText (entriesSeen screen entries) = entriesText entries := by
  match entries with
  | [] => rfl
  | (name, value) :: rest =>
      simp only [entriesSeen, entriesText]
      split
      · next secret =>
          rw [if_pos (faithful.hidden name secret)]
          exact entriesText_seen faithful rest
      · simp [entriesText, Value.plainText_seen faithful value, fieldsText_seen faithful rest,
          entriesText_seen faithful rest]

end

theorem Node.canonicalText_seen (faithful : screen.Faithful) (node : Node) :
    (node.seen screen).canonicalText = node.canonicalText := by
  rw [canonicalText_eq, canonicalText_eq, ← node.seen_normalForm faithful,
    node.normalForm.plainText_seen faithful]

end Ast

end Reparse
