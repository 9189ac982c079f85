import Reparse.Json.Numeral
import Reparse.Json.Quoted

namespace Reparse

namespace Json

mutual

def text : Json → List Char
  | .null => ['n', 'u', 'l', 'l']
  | .bool true => ['t', 'r', 'u', 'e']
  | .bool false => ['f', 'a', 'l', 's', 'e']
  | .number value => value.text
  | .string value => Quoted.encode value.toList
  | .array items => '[' :: itemsText items ++ [']']
  | .object members => '{' :: membersText members ++ ['}']

def itemsText : List Json → List Char
  | [] => []
  | [item] => item.text
  | item :: next :: rest => item.text ++ ',' :: itemsText (next :: rest)

def membersText : List (String × Json) → List Char
  | [] => []
  | [(name, value)] => Quoted.encode name.toList ++ ':' :: value.text
  | (name, value) :: next :: rest =>
      Quoted.encode name.toList ++ ':' :: value.text ++ ',' :: membersText (next :: rest)

end

mutual

def textBefore (following : List Char) : Json → List Char
  | .array items => '[' :: itemsTextBefore (']' :: following) items
  | .object members => '{' :: membersTextBefore ('}' :: following) members
  | .null => 'n' :: 'u' :: 'l' :: 'l' :: following
  | .bool true => 't' :: 'r' :: 'u' :: 'e' :: following
  | .bool false => 'f' :: 'a' :: 'l' :: 's' :: 'e' :: following
  | .number value => value.text ++ following
  | .string value => Quoted.encode value.toList ++ following

def itemsTextBefore (following : List Char) : List Json → List Char
  | [] => following
  | [item] => item.textBefore following
  | item :: next :: rest => item.textBefore (',' :: itemsTextBefore following (next :: rest))

def membersTextBefore (following : List Char) : List (String × Json) → List Char
  | [] => following
  | [(name, value)] => Quoted.encode name.toList ++ ':' :: value.textBefore following
  | (name, value) :: next :: rest =>
      Quoted.encode name.toList ++
        ':' :: value.textBefore (',' :: membersTextBefore following (next :: rest))

end

mutual

theorem textBefore_eq (following : List Char) (json : Json) :
    json.textBefore following = json.text ++ following := by
  cases json with
  | null => simp [textBefore, text]
  | bool value => cases value <;> simp [textBefore, text]
  | number value => simp [textBefore, text]
  | string value => simp [textBefore, text]
  | array items => simp [textBefore, text, itemsTextBefore_eq _ items]
  | object members => simp [textBefore, text, membersTextBefore_eq _ members]

theorem itemsTextBefore_eq (following : List Char) (items : List Json) :
    itemsTextBefore following items = itemsText items ++ following := by
  match items with
  | [] => simp [itemsTextBefore, itemsText]
  | [item] => simp [itemsTextBefore, itemsText, textBefore_eq _ item]
  | item :: next :: rest =>
      simp [itemsTextBefore, itemsText, textBefore_eq _ item, itemsTextBefore_eq _ (next :: rest)]

theorem membersTextBefore_eq (following : List Char) (members : List (String × Json)) :
    membersTextBefore following members = membersText members ++ following := by
  match members with
  | [] => simp [membersTextBefore, membersText]
  | [(name, value)] => simp [membersTextBefore, membersText, textBefore_eq _ value]
  | (name, value) :: next :: rest =>
      simp [membersTextBefore, membersText, textBefore_eq _ value,
        membersTextBefore_eq _ (next :: rest)]

end

def render (json : Json) : String :=
  String.ofList (json.textBefore [])

theorem render_eq (json : Json) : json.render = String.ofList json.text := by
  simp [render, textBefore_eq]

end Json

end Reparse
