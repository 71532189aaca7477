import GostManager.Texts.Json
import GostManager.Texts.Patterns

/-!
# Monitoring: sanitizing

`sanitize_text` and `sanitize_mapping` of `monitoring/schema.py`, which keep secrets out of the database. What `\w`
matches is a parameter.
-/

namespace Monitoring.Schema

open Texts

/-! ## Patterns -/

/-- `SENSITIVE_KEY_RE`. -/
def sensitiveKey : Pattern :=
  .sequence (.alt .start (.char (· = '_')))
    [.anyOf (.word "pass".toList)
      [.word "password".toList, .word "token".toList, .word "secret".toList, .word "credential".toList,
        .word "auth".toList, .word "username".toList, .word "gost_user".toList],
      .alt .finish (.char (· = '_'))]

/-- The words of `SENSITIVE_TEXT_RE`. -/
def sensitiveWord : Pattern :=
  .anyOf (.seq (.word "pass".toList) (.alt (.word "word".toList) .empty))
    [.word "token".toList, .word "secret".toList, .word "credential".toList, .word "auth".toList,
      .word "user".toList]

/-- The characters of a secret: `[^\s,;]`. -/
def isSecretChar (c : Char) : Bool := !isspace c && c != ',' && c != ';'

/-- `SENSITIVE_TEXT_RE.sub("[redacted]", ...)`. -/
def sensitiveText (isWord : Char → Bool) : Substitution where
  group := .boundary isWord
  rest := .sequence sensitiveWord
    [.many isspace, .char (fun c => c = ':' || c = '='), .many isspace, .plus isSecretChar]
  replacement _ := "[redacted]".toList

/-- The characters of a scheme: `[a-z0-9+.-]`. -/
def isSchemeChar (c : Char) : Bool :=
  isLetterIgnoringCase c || ('0' ≤ c && c ≤ '9') || c = '+' || c = '.' || c = '-'

/-- The characters of user information: `[^/@\s]`. -/
def isUserinfoChar (c : Char) : Bool := c != '/' && c != '@' && !isspace c

/-- `URI_USERINFO_RE.sub(r"\1[redacted]@", ...)`. -/
def uriUserinfo : Substitution where
  group := .sequence (.char isLetterIgnoringCase) [.many isSchemeChar, .word "://".toList]
  rest := .seq (.plus isUserinfoChar) (.char (· = '@'))
  replacement scheme := scheme ++ "[redacted]@".toList

/-! ## Values -/

variable (isWord : Char → Bool)

/-- `sanitize_text`. -/
def sanitizeText (text : Text) : Text := (sensitiveText isWord).apply (uriUserinfo.apply text)

mutual

/-- `sanitize_mapping`. The keys of a dictionary are distinct, so each that is kept is a new one. -/
def sanitizeMapping : List (Text × Json) → List (Text × Json)
  | [] => []
  | (key, value) :: values =>
    if sensitiveKey.search key then sanitizeMapping values
    else (key, sanitizeValue value) :: sanitizeMapping values

/-- What `sanitize_mapping` makes of a value. -/
def sanitizeValue : Json → Json
  | .object values => .object (sanitizeMapping values)
  | .array items => .array (sanitizeItems items)
  | .string text => .string (sanitizeText isWord text)
  | value => value

/-- The items of a list. -/
def sanitizeItems : List Json → List Json
  | [] => []
  | item :: items => sanitizeItem item :: sanitizeItems items

/-- An item of a list. A list in a list is kept as it is. -/
def sanitizeItem : Json → Json
  | .object values => .object (sanitizeMapping values)
  | .string text => .string (sanitizeText isWord text)
  | item => item

end

end Monitoring.Schema
