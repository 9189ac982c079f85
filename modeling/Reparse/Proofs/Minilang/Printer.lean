import Reparse.Proofs.Minilang.Lexer
import Reparse.Proofs.Minilang.Symptom

namespace Reparse

namespace Minilang

open Ast (Node Value)

section Unmarked

variable (defect : Option Defect)

theorem textField_unmarked (node : Node) (name : String) :
    textField node.unmarked name = textField node name := by
  have text : (node.unmarked.field? name >>= Value.text?) = (node.field? name >>= Value.text?) := by
    rw [Node.unmarked, node.field?_strip rfl]
    cases node.field? name with
    | none => rfl
    | some value => exact value.text?_strip
  rw [textField, textField, text, Node.unmarked, node.kind_strip]

theorem numberField_unmarked (node : Node) (name : String) :
    (node.unmarked.field? name >>= Value.number?) = (node.field? name >>= Value.number?) := by
  rw [Node.unmarked, node.field?_strip rfl]
  cases node.field? name with
  | none => rfl
  | some value => exact value.number?_strip

theorem listField_unmarked (node : Node) (name : String) :
    (node.unmarked.field? name >>= Value.list?) =
      (node.field? name >>= Value.list?).map (List.map (Value.strip fun _ => false)) := by
  rw [Node.unmarked, node.field?_strip rfl]
  cases node.field? name with
  | none => rfl
  | some value =>
      refine value.list?_strip.trans ?_
      cases value <;> simp [Value.list?, Ast.itemsStrip_eq_map]

variable {print : Bool → Node → Except PrintError (List Char)}

theorem printKey_unmarked (same : ∀ nested node, print nested node.unmarked = print nested node)
    (computed : Bool) (key : Node) :
    printKey defect print computed key.unmarked = printKey defect print computed key := by
  have kind : key.unmarked.kind = key.kind := key.kind_strip
  simp only [printKey, same, kind, numberField_unmarked]

theorem printItem_unmarked (same : ∀ nested node, print nested node.unmarked = print nested node)
    (item : Value) :
    printItem defect print (item.strip fun _ => false) = printItem defect print item := by
  cases item with
  | node node =>
      have kind : node.unmarked.kind = node.kind := node.kind_strip
      have unmarked : (Value.node node).strip (fun _ => false) = .node node.unmarked := rfl
      simp only [printItem, unmarked, Value.node?, required, Bind.bind, Except.bind, same, kind]
  | null | bool | number | text | list | map => rfl

theorem printProperty_unmarked
    (same : ∀ nested node, print nested node.unmarked = print nested node) (item : Value) :
    printProperty defect print (item.strip fun _ => false) = printProperty defect print item := by
  cases item with
  | node node =>
      have field (name : String) :
          node.unmarked.fieldNode? name = (node.fieldNode? name).map Node.unmarked :=
        node.fieldNode?_strip rfl
      have flag (name : String) : node.unmarked.flag name = node.flag name := node.flag_strip rfl
      have unmarked : (Value.node node).strip (fun _ => false) = .node node.unmarked := rfl
      simp only [printProperty, unmarked, Value.node?, required, field, flag, Bind.bind,
        Except.bind]
      cases node.fieldNode? "key" with
      | none => rfl
      | some key =>
          cases node.fieldNode? "value" with
          | none => rfl
          | some value => simp only [Option.map_some, same, printKey_unmarked defect same]
  | null | bool | number | text | list | map => rfl

/-- Positions and metadata are not printed. -/
theorem printExpression_unmarked (depth : Nat) (nested : Bool) (node : Node) :
    printExpression defect depth nested node.unmarked =
      printExpression defect depth nested node := by
  induction depth generalizing nested node with
  | zero => rw [printExpression, printExpression, Node.unmarked, node.kind_strip]
  | succ depth induction =>
      have kind : node.unmarked.kind = node.kind := node.kind_strip
      have items (name : String) (error : PrintError) :
          required error (node.unmarked.field? name >>= Value.list?) =
            (required error (node.field? name >>= Value.list?)).map
              (List.map (Value.strip fun _ => false)) := by
        rw [listField_unmarked]
        cases node.field? name >>= Value.list? <;> rfl
      have alike {α : Type} {print : Value → Except PrintError α} (values : List Value)
          (each : ∀ item, print (item.strip fun _ => false) = print item) :
          (values.map (Value.strip fun _ => false)).mapM print = values.mapM print := by
        rw [List.mapM_map]
        exact congrArg (values.mapM ·) (funext each)
      have sequences (values : List Value) := alike values (printItem_unmarked defect induction)
      have objects (values : List Value) := alike values (printProperty_unmarked defect induction)
      simp only [printExpression, kind, items, textField_unmarked, numberField_unmarked]
      generalize node.kind = kind
      split
      · cases required .sequenceWithoutExpressions (node.field? "expressions" >>= Value.list?) with
        | error error => rfl
        | ok values =>
            simp only [Except.map, Bind.bind, Except.bind, sequences]
      · rfl
      · rfl
      · rfl
      · split
        · rfl
        · cases required .objectWithoutProperties (node.field? "properties" >>= Value.list?) with
          | error error => rfl
          | ok values =>
              simp only [Except.map, Bind.bind, Except.bind, objects]
      · rfl

theorem printStatement_unmarked (compact : Bool) (item : Value) :
    printStatement defect compact (item.strip fun _ => false) =
      printStatement defect compact item := by
  cases item with
  | node node =>
      have field (name : String) :
          node.unmarked.fieldNode? name = (node.fieldNode? name).map Node.unmarked :=
        node.fieldNode?_strip rfl
      have unmarked : (Value.node node).strip (fun _ => false) = .node node.unmarked := rfl
      simp only [printStatement, unmarked, Value.node?, required, field, Bind.bind, Except.bind]
      cases node.fieldNode? "expression" with
      | none => rfl
      | some expression =>
          simp only [Option.map_some, expression.height_unmarked, printExpression_unmarked]
  | null | bool | number | text | list | map => rfl

theorem print_unmarked (tree : Node) (options : GenerateOptions) :
    Minilang.print defect tree.unmarked options = Minilang.print defect tree options := by
  have statements (values : List Value) :
      (values.map (Value.strip fun _ => false)).mapM (printStatement defect options.compact) =
        values.mapM (printStatement defect options.compact) := by
    rw [List.mapM_map]
    exact congrArg (values.mapM ·) (funext (printStatement_unmarked defect options.compact))
  rw [Minilang.print, Minilang.print, listField_unmarked]
  cases tree.field? "body" >>= Value.list? with
  | none => rfl
  | some body => simp only [Option.map_some, required, Bind.bind, Except.bind, statements]

end Unmarked

theorem commaSeparated_cons (first : List Char) (rest : List (List Char)) :
    commaSeparated (first :: rest) = first ++ rest.flatMap (',' :: ·) := by
  induction rest generalizing first with
  | nil => simp [commaSeparated]
  | cons second rest induction =>
      simp only [commaSeparated] at induction
      simp [commaSeparated, List.intercalate_cons_cons, induction]

theorem commaSeparated_singleton (text : List Char) : commaSeparated [text] = text := by
  simp [commaSeparated]

theorem commaSeparated_append {front : List (List Char)} (begun : front ≠ [])
    (rest : List (List Char)) :
    commaSeparated (front ++ rest) = commaSeparated front ++ rest.flatMap (',' :: ·) := by
  match front with
  | [] => contradiction
  | first :: others =>
      rw [List.cons_append, commaSeparated_cons, commaSeparated_cons, List.flatMap_append,
        List.append_assoc]

theorem commaSeparated_flatMap {α : Type} {group : α → List (List Char)}
    (begun : ∀ item, group item ≠ []) (items : List α) :
    commaSeparated (items.flatMap group) =
      commaSeparated (items.map fun item => commaSeparated (group item)) := by
  have behind (rest : List α) :
      (rest.flatMap group).flatMap (',' :: ·) =
        (rest.map fun item => commaSeparated (group item)).flatMap (',' :: ·) := by
    induction rest with
    | nil => rfl
    | cons item rest induction =>
        have texts : (group item).flatMap (',' :: ·) = ',' :: commaSeparated (group item) := by
          match whole : group item with
          | [] => exact absurd whole (begun item)
          | first :: others => rw [List.flatMap_cons, commaSeparated_cons, List.cons_append]
        rw [List.flatMap_cons, List.flatMap_append, induction, List.map_cons, List.flatMap_cons,
          texts]
  cases items with
  | nil => rfl
  | cons item rest =>
      rw [List.flatMap_cons, commaSeparated_append (begun item), behind, List.map_cons,
        commaSeparated_cons]

theorem lexemesText_append (left right : List Lexeme) :
    lexemesText (left ++ right) = lexemesText left ++ lexemesText right :=
  List.flatMap_append

theorem lexemesText_cons (lexeme : Lexeme) (rest : List Lexeme) :
    lexemesText (lexeme :: rest) = lexeme.text ++ lexemesText rest :=
  rfl

theorem lexemesText_singleton (lexeme : Lexeme) : lexemesText [lexeme] = lexeme.text :=
  List.append_nil _

def Operand.text (operand : Operand) : List Char :=
  lexemesText operand.tidy.lexemes

def Expression.text (expression : Expression) : List Char :=
  lexemesText expression.tidy.lexemes

def Property.text (property : Property) : List Char :=
  lexemesText property.tidy.lexemes

theorem lexemesText_othersLexemes (operands : List Operand) :
    lexemesText (othersLexemes (operandsTidy operands)) =
      (operands.map Operand.text).flatMap (',' :: ·) := by
  induction operands with
  | nil => rfl
  | cons operand rest induction =>
      simp [operandsTidy, othersLexemes, lexemesText_cons, lexemesText_append, induction,
        Operand.text, Lexeme.text]

theorem lexemesText_sequence (first : Operand) (others : List Operand) :
    lexemesText (Expression.mk first.tidy (operandsTidy others)).lexemes =
      commaSeparated ((first :: others).map Operand.text) := by
  rw [Expression.lexemes, lexemesText_append, lexemesText_othersLexemes, List.map_cons,
    commaSeparated_cons, Operand.text]

theorem lexemesText_propertiesLexemes (properties : List Property) :
    lexemesText (propertiesLexemes (propertiesTidy properties)) =
      commaSeparated (properties.map Property.text) := by
  induction properties with
  | nil => rfl
  | cons property rest induction =>
      cases rest with
      | nil => simp [propertiesTidy, propertiesLexemes, commaSeparated, Property.text]
      | cons next rest =>
          simp only [propertiesTidy] at induction
          simp [propertiesTidy, propertiesLexemes, lexemesText_cons, lexemesText_append, induction,
            commaSeparated_cons, Property.text, Lexeme.text]

section Texts

variable {defect : Option Defect}

theorem Operand.text_group {inner : Expression} (long : 2 ≤ inner.operands.length) :
    (Operand.group inner).text =
      parenthesize (commaSeparated (inner.operands.map Operand.text)) := by
  match inner with
  | .mk first (second :: others) =>
      rw [Expression.operands, ← lexemesText_sequence, Operand.text, Operand.tidy,
        Operand.lexemes, lexemesText_cons, lexemesText_append, lexemesText_singleton]
      rfl
  | .mk first [] => simp [Expression.operands] at long

theorem Operand.text_object (properties : List Property) :
    (Operand.object properties).text =
      '\x7b' :: commaSeparated (properties.map Property.text) ++ ['\x7d'] := by
  rw [← lexemesText_propertiesLexemes, Operand.text, Operand.tidy, Operand.lexemes,
    lexemesText_cons, lexemesText_append, lexemesText_singleton]
  rfl

theorem Expression.text_sequence {expression : Expression}
    (long : 2 ≤ expression.operands.length) :
    expression.text = commaSeparated (expression.operands.map Operand.text) := by
  match expression with
  | .mk first (second :: others) =>
      rw [operands, ← lexemesText_sequence, text]
      cases first <;> rfl
  | .mk first [] => simp [operands] at long

theorem Expression.text_single (first : Operand) (bare : ∀ inner, first ≠ .group inner) :
    (Expression.mk first []).text = first.text := by
  cases first with
  | group inner => exact absurd rfl (bare inner)
  | number | string | identifier => rfl
  | object properties =>
      simp [Expression.text, Expression.tidy, Expression.lexemes, othersLexemes, Operand.text]

theorem Expression.text_of_bare {expression : Expression}
    (bare : ∀ part ∈ expression.operands, ∀ inner, part ≠ .group inner) :
    expression.text = commaSeparated (expression.operands.map Operand.text) := by
  match expression with
  | .mk first [] =>
      rw [text_single first (bare first List.mem_cons_self), operands, List.map_singleton,
        commaSeparated_singleton]
  | .mk first (second :: others) => exact text_sequence (by simp [operands])

theorem Operand.text_group_opened (operand : Operand) :
    (Operand.group (operand.opened defect)).text = operand.text := by
  cases operand with
  | group inner =>
      rw [opened]
      split
      · rfl
      · rfl
  | number | string | identifier | object => rfl

theorem Expression.text_opened_group (inner : Expression) :
    ((Operand.group inner).opened defect).text = inner.text := by
  rw [Operand.opened]
  split
  · rfl
  · rfl

theorem Operand.text_opened_bare {operand : Operand} (bare : ∀ inner, operand ≠ .group inner) :
    ((operand.alter defect).opened defect).text = (operand.alter defect).text := by
  cases operand with
  | group inner => exact absurd rfl (bare inner)
  | number | string | identifier | object =>
      exact Expression.text_single _ fun _ => Operand.noConfusion

/-- The text of what stands for an operand in a sequence. -/
def Operand.partsText (defect : Option Defect) (operand : Operand) : List Char :=
  commaSeparated ((operand.parts defect).map Operand.text)

theorem Operand.partsText_of_kept (kept : defect ≠ some .flattenSequences) (operand : Operand) :
    operand.partsText defect = (operand.alter defect).text := by
  rw [partsText, parts, opened_of_kept kept, Expression.operands, List.map_singleton,
    commaSeparated_singleton]

theorem Operand.partsText_of_bare {operand : Operand} (bare : ∀ inner, operand ≠ .group inner) :
    operand.partsText defect = (operand.alter defect).text := by
  cases operand with
  | group inner => exact absurd rfl (bare inner)
  | number | string | identifier | object =>
      exact commaSeparated_singleton _

theorem Operand.partsText_group (inner : Expression) :
    (Operand.group inner).partsText (some .flattenSequences) =
      (inner.alter (some .flattenSequences)).text := by
  rw [partsText, parts, alter, opened, if_pos rfl]
  exact (Expression.text_of_bare (hereditary_bare.of_expression inner)).symm

theorem Expression.long_alter (first second : Operand) (others : List Operand) :
    2 ≤ ((Expression.mk first (second :: others)).alter defect).operands.length := by
  have begun (operand : Operand) : 0 < (operand.parts defect).length :=
    List.length_pos_iff.2 operand.parts_ne_nil
  rw [operands_alter, operands, List.flatMap_cons, List.flatMap_cons, List.length_append,
    List.length_append]
  have front := begun first
  have behind := begun second
  omega

theorem Expression.commaSeparated_alter (expression : Expression) :
    commaSeparated ((expression.alter defect).operands.map Operand.text) =
      commaSeparated (expression.operands.map (Operand.partsText defect)) := by
  rw [operands_alter, List.map_flatMap]
  refine commaSeparated_flatMap (fun operand => ?_) _
  rw [Ne, List.map_eq_nil_iff]
  exact operand.parts_ne_nil

end Texts

section Print

variable {defect : Option Defect}

theorem Key.print_tree (key : Key) (depth : Nat) (nested : Bool) :
    printExpression defect (depth + 1) nested key.tree = .ok key.lexeme.text := by
  cases key <;> rfl

theorem Key.printKey_tree (key : Key) (depth : Nat) :
    printKey defect (printExpression defect (depth + 1)) false key.tree =
      .ok (key.alter defect).lexeme.text := by
  cases key with
  | number value =>
      rw [printKey, if_neg Bool.false_ne_true, alter]
      by_cases quoted : defect = some .quoteNumericKeys
      · rw [if_pos ⟨rfl, quoted⟩, if_pos quoted]
        rfl
      · rw [if_neg fun both => quoted both.2, if_neg quoted]
        exact Key.print_tree (.number value) depth false
  | string value => rfl
  | identifier name => rfl

theorem printProperty_propertyTree (print : Bool → Node → Except PrintError (List Char))
    (key value : Node) (computed shorthand : Bool) :
    printProperty defect print (.node (propertyTree key value computed shorthand)) =
      if shorthand = true ∧ defect ≠ some .expandShorthand then print false key
      else do
        let keyText ← printKey defect print computed key
        let valueText ← print true value
        return keyText ++ ':' :: valueText := by
  cases shorthand <;> rfl

theorem printExpression_sequence (depth : Nat) (nested : Bool) {items : List Value}
    {texts : List (List Char)}
    (printed : items.mapM (printItem defect (printExpression defect depth)) = .ok texts) :
    printExpression defect (depth + 1) nested (Node.sequence items) =
      .ok (if nested then parenthesize (commaSeparated texts) else commaSeparated texts) := by
  change (items.mapM (printItem defect (printExpression defect depth)) >>= fun texts => _) = _
  rw [printed]
  rfl

theorem printExpression_objectTree (accepts : defect ≠ some .rejectObjects) (depth : Nat)
    (nested : Bool) {items : List Value} {texts : List (List Char)}
    (printed : items.mapM (printProperty defect (printExpression defect depth)) = .ok texts) :
    printExpression defect (depth + 1) nested (objectTree items) =
      .ok ('\x7b' :: commaSeparated texts ++ ['\x7d']) := by
  change (if defect = some .rejectObjects then _ else
    items.mapM (printProperty defect (printExpression defect depth)) >>= fun texts => _) = _
  rw [if_neg accepts, printed]
  rfl

theorem itemsHeight_le_of_sequence {items : List Value} {depth : Nat}
    (enough : (Node.sequence items).height ≤ depth + 1) : Ast.itemsHeight items ≤ depth := by
  simp [Node.sequence, Node.bare, Node.height, Ast.entriesHeight, Value.height] at enough
  omega

theorem itemsHeight_le_of_objectTree {items : List Value} {depth : Nat}
    (enough : (objectTree items).height ≤ depth + 1) : Ast.itemsHeight items ≤ depth := by
  simp [objectTree, Node.height, Ast.entriesHeight, Value.height] at enough
  omega

theorem height_propertyTree (key value : Node) (computed shorthand : Bool) :
    (propertyTree key value computed shorthand).height = max key.height value.height + 2 := by
  simp [propertyTree, Node.height, Ast.entriesHeight, Value.height]

theorem height_pos (node : Node) : 0 < node.height := by
  cases node
  exact Nat.succ_pos _

def Printable (defect : Option Defect) (tree : Node) : Prop :=
  defect = some .rejectObjects → tree.Lacks Node.isObject

theorem Printable.accepts {properties : List Property}
    (printable : Printable defect (Operand.object properties).tree) :
    defect ≠ some .rejectObjects := by
  intro rejects
  have clear := (lacks_objectTree.1 (printable rejects)).1
  contradiction

theorem Printable.operands {first second : Operand} {others : List Operand}
    (printable : Printable defect (Expression.mk first (second :: others)).tree) :
    ∀ operand ∈ first :: second :: others, Printable defect operand.tree := by
  intro operand member rejects
  have items := (lacks_sequence.1 (printable rejects)).2
  refine items (.node operand.tree) ?_
  rcases List.mem_cons.1 member with rfl | behind
  · exact List.mem_cons_self
  · rw [operandsTrees_eq]
    exact List.mem_cons_of_mem _ (List.mem_map_of_mem behind)

/-- Where sequences lose their parentheses an item in parentheses is printed as what they hold. -/
theorem Operand.print_item (operand : Operand) (depth : Nat)
    (printed : ∀ nested, nested = true ∨ operand.tree.kind ≠ .sequenceExpression →
      printExpression defect depth nested operand.tree = .ok (operand.alter defect).text)
    (printedInner : ∀ inner, operand = .group inner →
      printExpression defect depth false inner.tree = .ok (inner.alter defect).text) :
    printItem defect (printExpression defect depth) (.node operand.tree) =
      .ok (operand.partsText defect) := by
  change printExpression defect depth
    (decide (operand.tree.kind = .sequenceExpression ∧ defect ≠ some .flattenSequences))
      operand.tree = _
  by_cases flattens : defect = some .flattenSequences
  · rw [decide_eq_false fun both => both.2 flattens]
    cases operand with
    | group inner =>
        rw [flattens, Operand.partsText_group, ← flattens]
        exact printedInner inner rfl
    | number | string | identifier | object =>
        rw [Operand.partsText_of_bare (by simp)]
        refine printed false (.inr ?_)
        simp [Operand.tree, numberTree, stringTree, Node.stringLiteral, Node.bare, identifierTree,
          objectTree]
  · rw [Operand.partsText_of_kept flattens]
    refine printed _ ?_
    by_cases sequence : operand.tree.kind = .sequenceExpression
    · exact .inl (decide_eq_true ⟨sequence, flattens⟩)
    · exact .inr sequence

mutual

/-- A tree is printed as its altered derivation once that is tidy; a sequence gets parentheses if it
is asked for them. -/
theorem Operand.print_tree (operand : Operand) (depth : Nat) {nested : Bool}
    (enough : operand.tree.height ≤ depth) (printable : Printable defect operand.tree)
    (wrapped : nested = true ∨ operand.tree.kind ≠ .sequenceExpression) :
    printExpression defect depth nested operand.tree = .ok (operand.alter defect).text := by
  match operand, depth with
  | operand, 0 => exact absurd enough (Nat.not_le.2 (height_pos _))
  | .number value, depth + 1 =>
      have word := lexemesText_singleton (.number value "")
      exact (Key.print_tree (.number value) depth nested).trans (congrArg Except.ok word.symm)
  | .string value, depth + 1 =>
      have word := lexemesText_singleton (.string value "")
      exact (Key.print_tree (.string value) depth nested).trans (congrArg Except.ok word.symm)
  | .identifier name, depth + 1 =>
      have word := lexemesText_singleton (.identifier name)
      exact (Key.print_tree (.identifier name) depth nested).trans (congrArg Except.ok word.symm)
  -- Parentheses around a single operand leave no node, so the printer never sees them.
  | .group (.mk first []), depth + 1 =>
      rw [Operand.alter, Expression.alter, operandsAlter, Expression.append_nil,
        Operand.text_group_opened]
      exact Operand.print_tree first (depth + 1) enough printable wrapped
  | .group (.mk first (second :: others)), depth + 1 =>
      have printed := operandsTrees_print (first :: second :: others) depth
        (itemsHeight_le_of_sequence enough) printable.operands
      obtain rfl : nested = true := wrapped.resolve_right fun other => other rfl
      rw [Operand.alter, Operand.text_group (Expression.long_alter first second others),
        Expression.commaSeparated_alter]
      exact printExpression_sequence depth true printed
  | .object properties, depth + 1 =>
      have accepts := printable.accepts
      have printed := propertiesTrees_print properties depth
        (itemsHeight_le_of_objectTree enough) accepts
      rw [Operand.alter, Operand.text_object, propertiesAlter_eq, List.map_map]
      exact printExpression_objectTree accepts depth nested printed

theorem Expression.print_tree (expression : Expression) (depth : Nat)
    (enough : expression.tree.height ≤ depth) (printable : Printable defect expression.tree) :
    printExpression defect depth false expression.tree = .ok (expression.alter defect).text := by
  match expression, depth with
  | expression, 0 => exact absurd enough (Nat.not_le.2 (height_pos _))
  | .mk first [], depth + 1 =>
      rw [Expression.alter, operandsAlter, Expression.append_nil]
      cases first with
      | group inner =>
          rw [Operand.alter, Expression.text_opened_group]
          exact Expression.print_tree inner (depth + 1) enough printable
      | number | string | identifier | object =>
          refine (Operand.print_tree _ (depth + 1) enough printable (.inr ?_)).trans ?_
          · simp [Operand.tree, numberTree, stringTree, Node.stringLiteral, Node.bare,
              identifierTree, objectTree]
          · rw [Operand.text_opened_bare (by simp)]
  | .mk first (second :: others), depth + 1 =>
      have printed := operandsTrees_print (first :: second :: others) depth
        (itemsHeight_le_of_sequence enough) printable.operands
      rw [Expression.text_sequence (Expression.long_alter first second others),
        Expression.commaSeparated_alter]
      exact printExpression_sequence depth false printed

theorem Property.print_tree (property : Property) (depth : Nat)
    (enough : property.tree.height ≤ depth) (accepts : defect ≠ some .rejectObjects) :
    printProperty defect (printExpression defect depth) (.node property.tree) =
      .ok (property.alter defect).text := by
  match property, depth with
  | property, 0 => exact absurd enough (Nat.not_le.2 (height_pos _))
  | .named key value, depth + 1 =>
      simp only [Property.tree, height_propertyTree] at enough
      have printed := Operand.print_tree value (depth + 1) (by omega)
        (fun rejects => absurd rejects accepts) (.inl rfl)
      rw [Property.tree, printProperty_propertyTree, if_neg (by simp), key.printKey_tree, printed]
      simp [Property.alter, Property.text, Property.tidy, Property.lexemes, lexemesText_cons,
        Operand.text, Lexeme.text, Bind.bind, Except.bind, pure, Except.pure]
  | .shorthand name, depth + 1 =>
      have word := lexemesText_singleton (.identifier name)
      have printed (nested : Bool) :
          printExpression defect (depth + 1) nested (identifierTree name) = .ok name.toList :=
        Key.print_tree (.identifier name) depth nested
      have printedKey : printKey defect (printExpression defect (depth + 1)) false
          (identifierTree name) = .ok name.toList := Key.printKey_tree (.identifier name) depth
      rw [Property.tree, printProperty_propertyTree, Property.alter]
      by_cases expands : defect = some .expandShorthand
      · rw [if_neg fun both => both.2 expands, if_pos expands, printedKey, printed]
        simp [Property.text, Property.tidy, Property.lexemes, lexemesText_cons, Operand.tidy,
          Operand.lexemes, word, Key.lexeme, Lexeme.text, Bind.bind, Except.bind, pure,
          Except.pure]
      · rw [if_pos ⟨rfl, expands⟩, if_neg expands]
        exact (printed false).trans (congrArg Except.ok word.symm)
  | .computed key value, depth + 1 =>
      simp only [Property.tree, height_propertyTree] at enough
      have printedKey := Expression.print_tree key (depth + 1) (by omega)
        fun rejects => absurd rejects accepts
      have printed := Operand.print_tree value (depth + 1) (by omega)
        (fun rejects => absurd rejects accepts) (.inl rfl)
      rw [Property.tree, printProperty_propertyTree, if_neg (by simp), printKey, if_pos rfl,
        printedKey, printed]
      simp [Property.alter, Property.text, Property.tidy, Property.lexemes, lexemesText_cons,
        lexemesText_append, Operand.text, Expression.text, Lexeme.text, Bind.bind, Except.bind,
        Except.map, pure, Except.pure]

theorem operandsTrees_print (operands : List Operand) (depth : Nat)
    (enough : Ast.itemsHeight (operandsTrees operands) ≤ depth)
    (printable : ∀ operand ∈ operands, Printable defect operand.tree) :
    (operandsTrees operands).mapM (printItem defect (printExpression defect depth)) =
      .ok (operands.map (Operand.partsText defect)) := by
  match operands with
  | [] => rfl
  | operand :: rest =>
      simp only [operandsTrees, Ast.itemsHeight, Value.height] at enough
      obtain ⟨printableFirst, printableRest⟩ := List.forall_mem_cons.1 printable
      have first : printItem defect (printExpression defect depth) (.node operand.tree) =
          .ok (operand.partsText defect) := by
        have enoughFirst : operand.tree.height ≤ depth := by omega
        refine Operand.print_item operand depth (fun nested wrapped => ?_) fun inner same => ?_
        · exact Operand.print_tree operand depth enoughFirst printableFirst wrapped
        · cases operand with
          | group other =>
              cases same
              exact Expression.print_tree inner depth enoughFirst printableFirst
          | number | string | identifier | object => contradiction
      have others := operandsTrees_print rest depth (by omega) printableRest
      simp only [operandsTrees, List.mapM_cons, first, others]
      rfl

theorem propertiesTrees_print (properties : List Property) (depth : Nat)
    (enough : Ast.itemsHeight (propertiesTrees properties) ≤ depth)
    (accepts : defect ≠ some .rejectObjects) :
    (propertiesTrees properties).mapM (printProperty defect (printExpression defect depth)) =
      .ok (properties.map fun property => (property.alter defect).text) := by
  match properties with
  | [] => rfl
  | property :: rest =>
      simp only [propertiesTrees, Ast.itemsHeight, Value.height] at enough
      have first := Property.print_tree property depth (by omega) accepts
      have others := propertiesTrees_print rest depth (by omega) accepts
      simp only [propertiesTrees, List.mapM_cons, first, others]
      rfl

end

theorem printStatement_tree (statement : Expression) (compact : Bool)
    (printable : Printable defect statement.tree) :
    printStatement defect compact (statementTree statement) =
      .ok ((statement.alter defect).text ++ if compact then [';'] else [';', '\n']) := by
  change (printExpression defect statement.tree.height false statement.tree >>= fun text => _) = _
  rw [Expression.print_tree statement _ (Nat.le_refl _) printable]
  rfl

def programText (compact : Bool) (statements : List Expression) : List Char :=
  (statements.map fun statement =>
    statement.text ++ if compact then [';'] else [';', '\n']).flatten

theorem print_programTree (statements : List Expression) (goal : Goal)
    (options : GenerateOptions)
    (printable : ∀ statement ∈ statements, Printable defect statement.tree) :
    print defect (programTree statements goal) options =
      .ok (String.ofList (programText options.compact (statements.map (Expression.alter defect)) ++
        if defect = some .trailingParen then [')'] else [])) := by
  have texts : (statements.map statementTree).mapM (printStatement defect options.compact) =
      .ok (statements.map fun statement =>
        (statement.alter defect).text ++ if options.compact then [';'] else [';', '\n']) := by
    induction statements with
    | nil => rfl
    | cons statement rest induction =>
        obtain ⟨printableFirst, printableRest⟩ := List.forall_mem_cons.1 printable
        rw [List.map_cons, List.mapM_cons, printStatement_tree _ _ printableFirst,
          induction printableRest]
        rfl
  change ((statements.map statementTree).mapM (printStatement defect options.compact) >>=
    fun texts => _) = _
  rw [texts]
  simp [programText, Bind.bind, Except.bind, pure, Except.pure, Function.comp_def]

end Print

end Minilang

end Reparse
