import RuleTree.Failure.Basic

/-!
Message templates. A placeholder is the text from an opening brace to the next closing brace.
The placeholder of the name becomes the name under which the value is known, the placeholder of a
parameter its value; all other text stands as it is, and what was put in is not searched for
placeholders again.
-/

set_option autoImplicit false

namespace RuleTree

/-- A source of message templates for codes and keys. -/
structure MessageSource where
  lookup : String → Option String

namespace MessageSource

/-- The source that holds the given templates; of two with one key the later counts. -/
def ofList (templates : List (String × String)) : MessageSource where
  lookup key := (templates.reverse.find? fun template => template.1 == key).map Prod.snd

end MessageSource

/-- A message that takes the place of the message of a rule. -/
inductive MessageOverride where
  /-- A template. -/
  | literal (template : String)
  /-- The template that the message source has for a key. -/
  | resource (key : String)
  deriving DecidableEq, Repr

namespace Template

/-- What a placeholder becomes. One with an unknown key stays. -/
def substitute (name : String) (params : List (String × String)) (key : List Char) : List Char :=
  if String.ofList key = "name" then name.toList
  else
    match params.find? fun param => param.1 == String.ofList key with
    | some (_, value) => value.toList
    | none => '{' :: key ++ ['}']

/-- Renders the rest of a template. `opened` holds the text read since an opening brace, in
reverse; at the end of the template such a text stays as it is. -/
def renderRest (name : String) (params : List (String × String)) :
    Option (List Char) → List Char → List Char
  | none, [] => []
  | some opened, [] => '{' :: opened.reverse
  | none, c :: rest =>
    if c = '{' then renderRest name params (some []) rest
    else c :: renderRest name params none rest
  | some opened, c :: rest =>
    if c = '}' then
      substitute name params opened.reverse ++ renderRest name params none rest
    else renderRest name params (some (c :: opened)) rest

def render (template name : String) (params : List (String × String)) : String :=
  String.ofList (renderRest name params none template.toList)

end Template

namespace Failure

/-- Renders a template with the parameters of a failure and takes it as message. -/
def renderWith (template name : String) (failure : Failure) : Failure :=
  failure.withMessage (Template.render template name failure.params)

/-- Renders the message of a failure, or the template that the source has for its code. -/
def localize (failure : Failure) (name : String) (source : Option MessageSource) : Failure :=
  match source.bind fun source => source.lookup failure.code with
  | some template => failure.renderWith template name
  | none => failure.renderWith failure.message name

end Failure

end RuleTree
