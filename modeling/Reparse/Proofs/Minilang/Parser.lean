import Reparse.Proofs.Minilang.Derivation

namespace Reparse

namespace Minilang

open Ast (Node Value)

def Allowed (goal : Goal) (lexemes : List Lexeme) : Prop :=
  goal = .module → .identifier "await" ∉ lexemes

theorem allowed_append {goal : Goal} {left right : List Lexeme} :
    Allowed goal (left ++ right) ↔ Allowed goal left ∧ Allowed goal right := by
  simp only [Allowed, List.mem_append, not_or]
  exact forall_and

theorem allowed_cons {goal : Goal} {lexeme : Lexeme} {lexemes : List Lexeme} :
    Allowed goal (lexeme :: lexemes) ↔ Allowed goal [lexeme] ∧ Allowed goal lexemes := by
  rw [← List.singleton_append]
  exact allowed_append

theorem allowed_of_ne {goal : Goal} {lexeme : Lexeme} (other : lexeme ≠ .identifier "await") :
    Allowed goal [lexeme] := by
  intro _ member
  exact other (List.mem_singleton.1 member).symm

theorem allowed_mark {goal : Goal} (c : Char) : Allowed goal [.mark c] :=
  allowed_of_ne (by simp)

theorem bind_eq_ok {ε α β : Type} {first : Except ε α} {next : α → Except ε β} {result : β} :
    (first >>= next) = .ok result ↔ ∃ value, first = .ok value ∧ next value = .ok result := by
  cases first with
  | error error => simp [Bind.bind, Except.bind]
  | ok value => simp [Bind.bind, Except.bind]

theorem expect_eq_ok {c : Char} {tokens : List Token} {read : Read Unit} :
    expect c tokens = .ok read ↔
      ∃ span rest, tokens = ⟨.mark c, span⟩ :: rest ∧ read = ⟨(), span.stop, rest⟩ := by
  constructor
  · intro done
    match tokens with
    | [] => contradiction
    | ⟨.number _ _, _⟩ :: _ | ⟨.string _ _, _⟩ :: _ | ⟨.identifier _, _⟩ :: _ => contradiction
    | ⟨.mark other, span⟩ :: rest =>
        simp only [expect] at done
        split at done
        · next same =>
            cases done
            exact ⟨span, rest, by rw [same], rfl⟩
        · contradiction
  · rintro ⟨span, rest, rfl, rfl⟩
    simp [expect]

theorem identifier_eq_ok {goal : Goal} {name : String} {span : Ast.Span} {node : Node} :
    identifier goal name span = .ok node ↔
      Allowed goal [.identifier name] ∧ node = identifierNode name span := by
  have free : Allowed goal [.identifier name] ↔ ¬(goal = .module ∧ name = "await") := by
    simp [Allowed, eq_comm]
  rw [identifier, free]
  split
  · next reserved => simp [reserved]
  · next reserved => simp [reserved, eq_comm]

theorem propertyKey_eq_ok {goal : Goal} {token : Token} {node : Node} :
    propertyKey goal token = .ok node ↔
      Allowed goal [token.lexeme.content] ∧ ∃ key : Key, key.Builds token node := by
  obtain ⟨lexeme, span⟩ := token
  constructor
  · intro done
    cases lexeme with
    | number value spelling =>
        cases done
        exact ⟨allowed_of_ne (by simp [Lexeme.content]), _, .number value spelling span⟩
    | string value spelling =>
        cases done
        exact ⟨allowed_of_ne (by simp [Lexeme.content]), _, .string value spelling span⟩
    | identifier name =>
        obtain ⟨allowed, rfl⟩ := identifier_eq_ok.1 done
        exact ⟨allowed, _, .identifier name span⟩
    | mark c => contradiction
  · rintro ⟨allowed, key, built⟩
    cases built with
    | number | string => rfl
    | identifier name => exact identifier_eq_ok.2 ⟨allowed, rfl⟩

/-- Tokens that a rule takes from the front: there are some, the goal allows them, and the rule
notes where they end. -/
structure Takes (goal : Goal) (tokens front : List Token) (stop : Nat) (rest : List Token) :
    Prop where
  split : tokens = front ++ rest
  some : front ≠ []
  ends : stop = stopOf front
  allowed : Allowed goal (contents front)

namespace Takes

variable {goal : Goal} {tokens front back middle rest : List Token} {stop last : Nat}

theorem append (first : Takes goal tokens front stop middle)
    (second : Takes goal middle back last rest) : Takes goal tokens (front ++ back) last rest where
  split := by rw [first.split, second.split, List.append_assoc]
  some := List.append_ne_nil_of_left_ne_nil first.some _
  ends := by rw [second.ends, stopOf_append second.some]
  allowed := by
    rw [contents_append]
    exact allowed_append.2 ⟨first.allowed, second.allowed⟩

theorem token {token : Token} (allowed : Allowed goal [token.lexeme.content]) :
    Takes goal (token :: rest) [token] token.span.stop rest :=
  ⟨rfl, List.cons_ne_nil _ _, rfl, allowed⟩

theorem mark (c : Char) (span : Ast.Span) :
    Takes goal (⟨.mark c, span⟩ :: rest) [⟨.mark c, span⟩] span.stop rest :=
  token (allowed_mark c)

theorem offsetOf_eq (taken : Takes goal tokens front stop rest) :
    offsetOf tokens = offsetOf front := by
  rw [taken.split, offsetOf_append taken.some]

end Takes

mutual

/-- What the parser reads has a derivation, and the node is the one that it builds. -/
theorem expression_sound {goal : Goal} (fuel : Nat) {tokens : List Token} {read : Read Node}
    (done : expression goal fuel tokens = .ok read) :
    ∃ derivation front, Takes goal tokens front read.stop read.rest ∧
      Expression.Builds derivation front read.value := by
  cases fuel with
  | zero => contradiction
  | succ fuel =>
      simp only [expression, bind_eq_ok] at done
      obtain ⟨first, readFirst, done⟩ := done
      obtain ⟨operand, front, taken, head⟩ := operand_sound fuel readFirst
      split at done
      · simp only [bind_eq_ok] at done
        obtain ⟨others, readOthers, done⟩ := done
        obtain ⟨second, rest, back, takenOthers, tail⟩ := operands_sound fuel readOthers
        cases done
        refine ⟨.mk operand (second :: rest), front ++ back, taken.append takenOthers, ?_⟩
        rw [taken.offsetOf_eq, takenOthers.ends]
        exact .sequence head tail
      · cases done
        exact ⟨.mk operand [], front, taken, .single head⟩

theorem operands_sound {goal : Goal} (fuel : Nat) {tokens : List Token} {read : Read (List Node)}
    (done : operands goal fuel tokens = .ok read) :
    ∃ first rest front, Takes goal tokens front read.stop read.rest ∧
      OthersBuild (first :: rest) front read.value := by
  cases fuel with
  | zero => contradiction
  | succ fuel =>
      simp only [operands, bind_eq_ok, expect_eq_ok] at done
      obtain ⟨_, ⟨comma, behind, rfl, rfl⟩, first, readFirst, done⟩ := done
      obtain ⟨operand, front, taken, head⟩ := operand_sound fuel readFirst
      have takenBoth := (Takes.mark ',' comma).append taken
      split at done
      · simp only [bind_eq_ok] at done
        obtain ⟨others, readOthers, done⟩ := done
        obtain ⟨second, rest, back, takenOthers, tail⟩ := operands_sound fuel readOthers
        cases done
        exact ⟨operand, second :: rest, _, takenBoth.append takenOthers, .cons comma head tail⟩
      · cases done
        have built := OthersBuild.cons comma head .nil
        rw [List.append_nil] at built
        exact ⟨operand, [], _, takenBoth, built⟩

theorem operand_sound {goal : Goal} (fuel : Nat) {tokens : List Token} {read : Read Node}
    (done : operand goal fuel tokens = .ok read) :
    ∃ derivation front, Takes goal tokens front read.stop read.rest ∧
      Operand.Builds derivation front read.value := by
  match fuel, tokens with
  | 0, _ => contradiction
  | _ + 1, [] => contradiction
  | fuel + 1, ⟨lexeme, span⟩ :: rest =>
      cases lexeme with
      | number value spelling =>
          cases done
          have allowed : Allowed goal [.number value ""] := allowed_of_ne (by simp)
          exact ⟨_, _, .token allowed, .number value spelling span⟩
      | string value spelling =>
          cases done
          have allowed : Allowed goal [.string value ""] := allowed_of_ne (by simp)
          exact ⟨_, _, .token allowed, .string value spelling span⟩
      | identifier name =>
          simp only [operand, bind_eq_ok, identifier_eq_ok] at done
          obtain ⟨_, ⟨allowed, rfl⟩, done⟩ := done
          cases done
          exact ⟨_, _, .token allowed, .identifier name span⟩
      | mark c =>
          simp only [operand] at done
          split at done
          all_goals try contradiction
          · next same =>
              cases same
              simp only [bind_eq_ok, expect_eq_ok] at done
              obtain ⟨inner, readInner, _, ⟨closing, behind, split, rfl⟩, done⟩ := done
              obtain ⟨derivation, front, taken, built⟩ := expression_sound fuel readInner
              rw [split] at taken
              cases done
              have takenEnd := taken.append (.mark ')' closing)
              exact ⟨.group derivation, _, (Takes.mark '(' span).append takenEnd,
                .group span closing built⟩
          · next same =>
              cases same
              simp only [bind_eq_ok] at done
              obtain ⟨members, readMembers, done⟩ := done
              obtain ⟨properties, front, closing, taken, built⟩ := object_sound fuel readMembers
              cases done
              refine ⟨.object properties, _, (Takes.mark _ span).append taken, ?_⟩
              rw [taken.ends, stopOf_concat]
              exact .object span closing built

theorem object_sound {goal : Goal} (fuel : Nat) {tokens : List Token} {read : Read (List Node)}
    (done : object goal fuel tokens = .ok read) :
    ∃ derivation front closing,
      Takes goal tokens (front ++ [⟨.mark '\x7d', closing⟩]) read.stop read.rest ∧
        PropertiesBuild derivation front read.value := by
  cases fuel with
  | zero => contradiction
  | succ fuel =>
      simp only [object] at done
      split at done
      · simp only [bind_eq_ok, expect_eq_ok] at done
        obtain ⟨_, ⟨closing, rest, rfl, rfl⟩, done⟩ := done
        cases done
        exact ⟨[], [], closing, .mark _ closing, .nil⟩
      · obtain ⟨first, rest, front, closing, taken, built⟩ := properties_sound fuel done
        exact ⟨first :: rest, front, closing, taken, built⟩

theorem properties_sound {goal : Goal} (fuel : Nat) {tokens : List Token}
    {read : Read (List Node)} (done : properties goal fuel tokens = .ok read) :
    ∃ first rest front closing,
      Takes goal tokens (front ++ [⟨.mark '\x7d', closing⟩]) read.stop read.rest ∧
        PropertiesBuild (first :: rest) front read.value := by
  cases fuel with
  | zero => contradiction
  | succ fuel =>
      simp only [properties, bind_eq_ok] at done
      obtain ⟨first, readFirst, done⟩ := done
      obtain ⟨property, front, taken, head⟩ := property_sound fuel readFirst
      split at done
      · simp only [bind_eq_ok, expect_eq_ok] at done
        obtain ⟨_, ⟨closing, behind, split, rfl⟩, done⟩ := done
        rw [split] at taken
        cases done
        exact ⟨property, [], front, closing, taken.append (.mark _ closing), .single head⟩
      · simp only [bind_eq_ok, expect_eq_ok] at done
        obtain ⟨_, ⟨comma, behind, split, rfl⟩, others, readOthers, done⟩ := done
        obtain ⟨second, rest, back, closing, takenOthers, tail⟩ := properties_sound fuel readOthers
        rw [split] at taken
        cases done
        refine ⟨property, second :: rest, _, closing, ?_, .cons comma head tail⟩
        have all := taken.append ((Takes.mark ',' comma).append takenOthers)
        rwa [← List.append_assoc, ← List.append_assoc, List.append_assoc front] at all

theorem property_sound {goal : Goal} (fuel : Nat) {tokens : List Token} {read : Read Node}
    (done : property goal fuel tokens = .ok read) :
    ∃ derivation front, Takes goal tokens front read.stop read.rest ∧
      Property.Builds derivation front read.value := by
  match fuel, tokens with
  | 0, _ => contradiction
  | _ + 1, [] => contradiction
  | fuel + 1, ⟨lexeme, span⟩ :: rest =>
      simp only [property] at done
      split at done
      · next bracket =>
          cases bracket
          simp only [bind_eq_ok, expect_eq_ok] at done
          obtain ⟨key, readKey, _, ⟨closing, behind, splitKey, rfl⟩, _,
            ⟨colon, _, rfl, rfl⟩, value, readValue, done⟩ := done
          obtain ⟨expression, front, takenKey, left⟩ := expression_sound fuel readKey
          obtain ⟨operand, back, takenValue, right⟩ := operand_sound fuel readValue
          rw [splitKey] at takenKey
          cases done
          have takenColon := (Takes.mark ':' colon).append takenValue
          have takenBehind := takenKey.append ((Takes.mark ']' closing).append takenColon)
          refine ⟨.computed expression operand, _, (Takes.mark '[' span).append takenBehind, ?_⟩
          rw [takenValue.ends]
          exact .computed span closing colon left right
      · split at done
        · next shorthand =>
            simp only [bind_eq_ok, propertyKey_eq_ok] at done
            obtain ⟨node, ⟨allowed, key, built⟩, done⟩ := done
            cases built with
            | number | string => contradiction
            | identifier name =>
                cases done
                exact ⟨.shorthand name, _, .token allowed, .shorthand name span⟩
        · simp only [bind_eq_ok, propertyKey_eq_ok, expect_eq_ok] at done
          obtain ⟨node, ⟨allowed, key, left⟩, _, ⟨colon, behind, rfl, rfl⟩, value, readValue,
            done⟩ := done
          obtain ⟨operand, back, takenValue, right⟩ := operand_sound fuel readValue
          cases done
          refine ⟨.named key operand, _,
            (Takes.token allowed).append ((Takes.mark ':' colon).append takenValue), ?_⟩
          rw [takenValue.ends]
          exact .named colon left right

end

theorem expect_mark (c : Char) (span : Ast.Span) (rest : List Token) :
    expect c (⟨.mark c, span⟩ :: rest) = .ok ⟨(), span.stop, rest⟩ :=
  expect_eq_ok.2 ⟨span, rest, rfl, rfl⟩

theorem startsWith_mark (c : Char) (span : Ast.Span) (rest : List Token) :
    startsWith c (⟨.mark c, span⟩ :: rest) = true :=
  beq_self_eq_true c

theorem OthersBuild.startsWith_comma {first : Operand} {others : List Operand}
    {front : List Token} {nodes : List Node} (built : OthersBuild (first :: others) front nodes)
    (rest : List Token) : startsWith ',' (front ++ rest) = true := by
  cases built
  rfl

theorem Property.Builds.not_startsWith {property : Property} {front : List Token} {node : Node}
    (built : property.Builds front node) (rest : List Token) :
    startsWith '\x7d' (front ++ rest) = false := by
  cases built with
  | named colon left right => cases left <;> rfl
  | shorthand | computed => rfl

theorem PropertiesBuild.not_startsWith {first : Property} {others : List Property}
    {front : List Token} {nodes : List Node} (built : PropertiesBuild (first :: others) front nodes)
    (rest : List Token) : startsWith '\x7d' (front ++ rest) = false := by
  cases built with
  | single built => exact built.not_startsWith rest
  | cons comma head tail =>
      rw [List.append_assoc]
      exact head.not_startsWith _

theorem Key.Builds.not_isShorthand {key : Key} {token : Token} {node : Node}
    (built : key.Builds token node) (colon : Ast.Span) (rest : List Token) :
    isShorthand (token :: ⟨.mark ':', colon⟩ :: rest) = false := by
  cases built <;> rfl

theorem Key.Builds.ne_mark {key : Key} {token : Token} {node : Node}
    (built : key.Builds token node) (c : Char) : token.lexeme ≠ .mark c := by
  cases built <;> simp

mutual

/-- What has a derivation is read, up to the end of the derivation.  An expression would go on at a
comma behind it, and a shorthand property at a colon. -/
theorem expression_complete {derivation : Expression} {front : List Token} {node : Node}
    (built : derivation.Builds front node) (fuel : Nat) {goal : Goal} {rest : List Token}
    (enough : 4 * front.length + 1 ≤ fuel) (allowed : Allowed goal (contents front))
    (ends : startsWith ',' rest = false) :
    expression goal fuel (front ++ rest) = .ok ⟨node, stopOf front, rest⟩ := by
  -- An operand without a comma behind it takes no token of its own, hence the extra call in the
  -- bound on the fuel.
  cases fuel with
  | zero => contradiction
  | succ fuel =>
      simp only [expression, bind_eq_ok]
      cases built with
      | single built =>
          refine ⟨_, operand_complete built fuel (by omega) allowed, ?_⟩
          rw [ends]
          rfl
      | sequence head tail =>
          rw [contents_append, allowed_append] at allowed
          simp only [List.length_append] at enough
          rw [List.append_assoc, offsetOf_append head.ne_nil, stopOf_append tail.ne_nil]
          refine ⟨_, operand_complete head fuel (by omega) allowed.1, ?_⟩
          rw [if_pos (tail.startsWith_comma rest), bind_eq_ok]
          exact ⟨_, operands_complete tail fuel (by omega) allowed.2 ends, rfl⟩
termination_by fuel

theorem operands_complete {first : Operand} {others : List Operand} {front : List Token}
    {nodes : List Node} (built : OthersBuild (first :: others) front nodes) (fuel : Nat)
    {goal : Goal} {rest : List Token} (enough : 4 * front.length ≤ fuel)
    (allowed : Allowed goal (contents front)) (ends : startsWith ',' rest = false) :
    operands goal fuel (front ++ rest) = .ok ⟨nodes, stopOf front, rest⟩ := by
  cases built with
  | cons comma head tail =>
      rw [contents_cons, allowed_cons, contents_append, allowed_append] at allowed
      simp only [List.length_cons, List.length_append] at enough
      cases fuel with
      | zero => omega
      | succ fuel =>
          simp only [operands, bind_eq_ok, List.cons_append, List.append_assoc]
          refine ⟨_, expect_mark ',' comma _, _, operand_complete head fuel (by omega)
            allowed.2.1, ?_⟩
          cases others with
          | nil =>
              cases tail
              rw [List.append_nil, stopOf_cons head.ne_nil, List.nil_append, ends]
              rfl
          | cons second others =>
              rw [stopOf_cons (List.append_ne_nil_of_left_ne_nil head.ne_nil _),
                stopOf_append tail.ne_nil, if_pos (tail.startsWith_comma rest), bind_eq_ok]
              exact ⟨_, operands_complete tail fuel (by omega) allowed.2.2 ends, rfl⟩
termination_by fuel

theorem operand_complete {derivation : Operand} {front : List Token} {node : Node}
    (built : derivation.Builds front node) (fuel : Nat) {goal : Goal} {rest : List Token}
    (enough : 4 * front.length ≤ fuel) (allowed : Allowed goal (contents front)) :
    operand goal fuel (front ++ rest) = .ok ⟨node, stopOf front, rest⟩ := by
  cases fuel with
  | zero => exact absurd (List.length_pos_of_ne_nil built.ne_nil) (by omega)
  | succ fuel =>
      cases built with
      | number | string => rfl
      | identifier name span =>
          simp only [List.singleton_append, operand, bind_eq_ok, identifier_eq_ok]
          exact ⟨_, ⟨allowed, rfl⟩, rfl⟩
      | group opening closing built =>
          rw [contents_cons, allowed_cons, contents_append, allowed_append] at allowed
          simp only [List.length_cons, List.length_append] at enough
          simp only [List.cons_append, List.append_assoc, operand, bind_eq_ok]
          rw [stopOf_bracketed]
          refine ⟨_, expression_complete built fuel (by omega) allowed.2.1 rfl, ?_⟩
          exact ⟨_, expect_mark ')' closing rest, rfl⟩
      | object opening closing built =>
          rw [contents_cons, allowed_cons, contents_append, allowed_append] at allowed
          simp only [List.length_cons, List.length_append] at enough
          simp only [List.cons_append, List.append_assoc, operand, bind_eq_ok]
          rw [stopOf_bracketed]
          exact ⟨_, object_complete built fuel (by omega) allowed.2.1, rfl⟩
termination_by fuel

theorem object_complete {derivation : List Property} {front : List Token} {nodes : List Node}
    (built : PropertiesBuild derivation front nodes) (fuel : Nat) {goal : Goal}
    {closing : Ast.Span} {rest : List Token} (enough : 4 * front.length + 3 ≤ fuel)
    (allowed : Allowed goal (contents front)) :
    object goal fuel (front ++ ⟨.mark '\x7d', closing⟩ :: rest) =
      .ok ⟨nodes, closing.stop, rest⟩ := by
  cases fuel with
  | zero => contradiction
  | succ fuel =>
      cases derivation with
      | nil =>
          cases built
          simp only [object, List.nil_append]
          rw [if_pos (startsWith_mark _ closing rest), bind_eq_ok]
          exact ⟨_, expect_mark '\x7d' closing rest, rfl⟩
      | cons first others =>
          simp only [object]
          rw [built.not_startsWith]
          exact properties_complete built fuel (by omega) allowed
termination_by fuel

theorem properties_complete {first : Property} {others : List Property} {front : List Token}
    {nodes : List Node} (built : PropertiesBuild (first :: others) front nodes) (fuel : Nat)
    {goal : Goal} {closing : Ast.Span} {rest : List Token} (enough : 4 * front.length + 2 ≤ fuel)
    (allowed : Allowed goal (contents front)) :
    properties goal fuel (front ++ ⟨.mark '\x7d', closing⟩ :: rest) =
      .ok ⟨nodes, closing.stop, rest⟩ := by
  cases fuel with
  | zero => contradiction
  | succ fuel =>
      simp only [properties, bind_eq_ok]
      cases built with
      | single built =>
          refine ⟨_, property_complete built fuel (by omega) allowed rfl, ?_⟩
          rw [if_pos (startsWith_mark _ closing rest), bind_eq_ok]
          exact ⟨_, expect_mark '\x7d' closing rest, rfl⟩
      | cons comma head tail =>
          rw [contents_append, allowed_append, contents_cons, allowed_cons] at allowed
          simp only [List.length_cons, List.length_append] at enough
          rw [List.append_assoc, List.cons_append]
          refine ⟨_, property_complete head fuel (by omega) allowed.1 rfl, ?_⟩
          have goesOn (tokens : List Token) :
              ¬startsWith '\x7d' (⟨.mark ',', comma⟩ :: tokens) = true :=
            Bool.false_ne_true
          rw [if_neg (goesOn _)]
          simp only [bind_eq_ok]
          exact ⟨_, expect_mark ',' comma _, _,
            properties_complete tail fuel (by omega) allowed.2.2, rfl⟩
termination_by fuel

theorem property_complete {derivation : Property} {front : List Token} {node : Node}
    (built : derivation.Builds front node) (fuel : Nat) {goal : Goal} {rest : List Token}
    (enough : 4 * front.length ≤ fuel) (allowed : Allowed goal (contents front))
    (ends : startsWith ':' rest = false) :
    property goal fuel (front ++ rest) = .ok ⟨node, stopOf front, rest⟩ := by
  cases fuel with
  | zero => exact absurd (List.length_pos_of_ne_nil built.ne_nil) (by omega)
  | succ fuel =>
      cases built with
      | named colon left right =>
          rw [contents_cons, allowed_cons, contents_cons] at allowed
          simp only [List.length_cons] at enough
          simp only [property, List.cons_append]
          rw [if_neg (left.ne_mark '['), left.not_isShorthand, if_neg Bool.false_ne_true,
            stopOf_cons (List.cons_ne_nil _ _), stopOf_cons right.ne_nil]
          simp only [bind_eq_ok, propertyKey_eq_ok]
          exact ⟨_, ⟨allowed.1, _, left⟩, _, expect_mark ':' colon _, _,
            operand_complete right fuel (by omega) (allowed_cons.1 allowed.2).2, rfl⟩
      | shorthand name span =>
          have shorthand : isShorthand (⟨.identifier name, span⟩ :: rest) = true := by
            simp [isShorthand, ends]
          simp only [property, List.singleton_append]
          rw [if_neg (by simp), if_pos shorthand, bind_eq_ok]
          exact ⟨_, propertyKey_eq_ok.2 ⟨allowed, _, .identifier name span⟩, rfl⟩
      | computed opening closing colon left right =>
          rw [contents_cons, allowed_cons, contents_append, allowed_append, contents_cons,
            contents_cons] at allowed
          have allowedValue := (allowed_cons.1 (allowed_cons.1 allowed.2.2).2).2
          simp only [List.length_cons, List.length_append] at enough
          simp only [property, List.cons_append, List.append_assoc]
          rw [if_pos trivial, stopOf_cons (List.append_ne_nil_of_left_ne_nil left.ne_nil _),
            stopOf_append (List.cons_ne_nil _ _), stopOf_cons (List.cons_ne_nil _ _),
            stopOf_cons right.ne_nil]
          simp only [bind_eq_ok]
          exact ⟨_, expression_complete left fuel (by omega) allowed.2.1 rfl, _,
            expect_mark ']' closing _, _, expect_mark ':' colon _, _,
            operand_complete right fuel (by omega) allowedValue, rfl⟩
termination_by fuel

end

theorem statements_sound {goal : Goal} (fuel : Nat) {tokens : List Token} {nodes : List Node}
    (done : statements goal fuel tokens = .ok nodes) (enough : tokens.length ≤ fuel) :
    ∃ program, ProgramBuilds program tokens nodes ∧ Allowed goal (contents tokens) := by
  induction fuel generalizing tokens nodes with
  | zero =>
      obtain rfl := List.eq_nil_of_length_eq_zero (Nat.le_zero.1 enough)
      cases done
      exact ⟨[], .nil, by simp [Allowed, contents]⟩
  | succ fuel induction =>
      cases tokens with
      | nil =>
          cases done
          exact ⟨[], .nil, by simp [Allowed, contents]⟩
      | cons token behind =>
          simp only [statements, bind_eq_ok, expect_eq_ok] at done
          obtain ⟨body, readBody, _, ⟨semicolon, rest, split, rfl⟩, done⟩ := done
          obtain ⟨others, readOthers, done⟩ := done
          obtain ⟨statement, front, taken, head⟩ := expression_sound _ readBody
          rw [split] at taken
          have shorter : rest.length ≤ fuel := by
            have lengths := congrArg List.length taken.split
            simp only [List.length_append, List.length_cons] at lengths enough
            omega
          obtain ⟨program, tail, allowed⟩ := induction readOthers shorter
          cases done
          refine ⟨statement :: program, ?_, ?_⟩
          · rw [taken.offsetOf_eq, taken.split]
            exact .cons semicolon head tail
          · rw [taken.split, contents_append, contents_cons]
            exact allowed_append.2 ⟨taken.allowed, allowed_cons.2 ⟨allowed_mark ';', allowed⟩⟩

theorem statements_complete {program : List Expression} {tokens : List Token} {nodes : List Node}
    (built : ProgramBuilds program tokens nodes) {goal : Goal} {fuel : Nat}
    (enough : tokens.length ≤ fuel) (allowed : Allowed goal (contents tokens)) :
    statements goal fuel tokens = .ok nodes := by
  induction built generalizing fuel with
  | nil => cases fuel <;> rfl
  | @cons semicolon _ _ front rest _ _ head tail induction =>
      simp only [List.length_append, List.length_cons] at enough
      rw [contents_append, allowed_append, contents_cons, allowed_cons] at allowed
      have plenty :
          4 * front.length + 1 ≤ enoughFuel (front ++ ⟨.mark ';', semicolon⟩ :: rest) := by
        simp only [enoughFuel, List.length_append]
        omega
      have stops : startsWith ',' (⟨.mark ';', semicolon⟩ :: rest) = false := rfl
      have readHead := expression_complete head _ plenty allowed.1 stops
      have readTail (fuel : Nat) (enough : rest.length ≤ fuel) := induction enough allowed.2.2
      cases front with
      | nil => exact absurd rfl head.ne_nil
      | cons token front =>
          cases fuel with
          | zero => omega
          | succ fuel =>
              simp only [statements, List.cons_append, bind_eq_ok]
              exact ⟨_, readHead, _, expect_mark ';' semicolon rest, _,
                readTail fuel (by omega), rfl⟩

/-- A source is read exactly when its tokens build a program and the goal reserves none of them,
and the tree is then the node of that program. -/
theorem parse_eq_ok {source : String} {goal : Goal} {tree : Node} :
    parse source goal = .ok tree ↔
      ∃ lexed program body, lex source = .ok lexed ∧ ProgramBuilds program lexed.tokens body ∧
        Allowed goal (contents lexed.tokens) ∧
        tree = programNode body goal lexed.comments source.utf8ByteSize := by
  simp only [parse, bind_eq_ok]
  constructor
  · rintro ⟨lexed, lexes, body, readBody, done⟩
    obtain ⟨program, built, allowed⟩ := statements_sound _ readBody (Nat.le_refl _)
    cases done
    exact ⟨lexed, program, body, lexes, built, allowed, rfl⟩
  · rintro ⟨lexed, program, body, lexes, built, allowed, rfl⟩
    exact ⟨lexed, lexes, body, statements_complete built (Nat.le_refl _) allowed, rfl⟩

theorem unmarked_program {program : List Expression} {tokens : List Token} {body : List Node}
    (built : ProgramBuilds program tokens body) (goal : Goal) (comments : List Comment)
    (length : Nat) :
    (programNode body goal comments length).unmarked = programTree program goal := by
  rw [unmarked_programNode, built.trees]
  rfl

theorem parse_sound {source : String} {goal : Goal} {tree : Node}
    (done : parse source goal = .ok tree) :
    ∃ lexed derivations, lex source = .ok lexed ∧
      contents lexed.tokens = programLexemes derivations ∧
      Allowed goal (programLexemes derivations) ∧ tree.unmarked = programTree derivations goal := by
  obtain ⟨lexed, program, body, lexes, built, allowed, rfl⟩ := parse_eq_ok.1 done
  rw [built.contents] at allowed
  exact ⟨lexed, program, lexes, built.contents, allowed, unmarked_program built _ _ _⟩

theorem parse_complete {source : String} {goal : Goal} {lexed : Lexed}
    {derivations : List Expression} (lexes : lex source = .ok lexed)
    (same : contents lexed.tokens = programLexemes derivations)
    (allowed : Allowed goal (programLexemes derivations)) :
    ∃ tree, parse source goal = .ok tree ∧ tree.unmarked = programTree derivations goal := by
  obtain ⟨body, built⟩ := exists_programBuilds derivations same
  rw [← same] at allowed
  exact ⟨_, parse_eq_ok.2 ⟨lexed, _, body, lexes, built, allowed, rfl⟩,
    unmarked_program built _ _ _⟩

end Minilang

end Reparse
