import StepRunner.Text.Keyword

/-!
This file reads the free text of an expectation as a check of the page.
-/

namespace StepRunner

/-- A check of the current page. -/
inductive Assertion where
  | urlContains (value : String)
  | titleIs (value : String)
  | visible (value : String)
  | hidden (value : String)
  | textPresent (value : String)
  deriving DecidableEq, Repr

namespace Assertion

/-- The wire name of the kind of a check. -/
def kind : Assertion → String
  | urlContains _ => "url_contains"
  | titleIs _ => "title_is"
  | visible _ => "visible"
  | hidden _ => "hidden"
  | textPresent _ => "text_present"

/-- The text that a check looks for. -/
def value : Assertion → String
  | urlContains value => value
  | titleIs value => value
  | visible value => value
  | hidden value => value
  | textPresent value => value

/-- Drops one quote at the start, if there is one. -/
def dropOpening : List Char → List Char
  | '"' :: rest => rest
  | text => text

/-- Drops one quote at the end, if there is one. -/
def dropClosing (text : List Char) : List Char :=
  if text.getLast? = some '"' then text.dropLast else text

/-- The operand of a check: not empty and without a quote, besides one on either side. -/
def operand? (text : List Char) : Option String :=
  let bare := dropClosing (dropOpening text)
  if bare.isEmpty || bare.contains '"' then none else some (String.ofList bare)

/-- Drops a keyword at the start, if it is there. -/
def dropOptional (keyword text : List Char) : List Char :=
  (Text.dropKeyword? keyword text).getD text

/-- The text after the first keyword of a list that starts it. -/
def afterAny? (keywords : List String) (text : List Char) : Option (List Char) :=
  keywords.findSome? fun keyword => Text.dropKeyword? keyword.toList text

/-- The text before the first keyword of a list that ends it. -/
def beforeAny? (keywords : List String) (text : List Char) : Option (List Char) :=
  keywords.findSome? fun keyword => Text.dropKeywordSuffix? keyword.toList text

/-- Drops the optional words before the name of a property of the page. -/
def dropArticle (text : List Char) : List Char :=
  dropOptional "page ".toList (dropOptional "the ".toList text)

/-- Reads a text as a check; a text of no known form has to be present on the page. -/
def ofChars (text : List Char) : Assertion :=
  let text := Text.trim text
  let url := (afterAny? ["url contains ", "url includes "] (dropArticle text)).bind operand?
  let title := (afterAny? ["title is "] (dropArticle text)).bind operand?
  let hiddenText :=
    (beforeAny? [" is not visible", " is hidden", " is not displayed"] text).bind operand?
  let visibleText :=
    (beforeAny? [" is visible", " is displayed", " is shown", " appears"] text).bind operand?
  match url, title, hiddenText, visibleText with
  | some value, _, _, _ => urlContains value
  | none, some value, _, _ => titleIs value
  | none, none, some value, _ => hidden value
  | none, none, none, some value => visible value
  | none, none, none, none => textPresent (String.ofList (Text.dropBoth (· == '"') text))

/-- Reads a text as a check. -/
def interpret (text : String) : Assertion :=
  ofChars text.toList

end Assertion

end StepRunner
