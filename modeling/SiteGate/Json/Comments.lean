import SiteGate.Text.Basic

/-!
# JSON with comments

A settings file may hold comments: from a number sign to the end of the line, and from a slash with
an asterisk to the next asterisk with a slash. Within a string neither begins a comment. A comment
to the end of the line leaves its line feed behind; the other kind leaves nothing.
-/

set_option autoImplicit false

namespace SiteGate.Json

/-- Where in the text the next character stands. -/
inductive CommentState where
  | plain
  | string (escaped : Bool)
  | toLineEnd
  /-- Just after the slash that begins a block. -/
  | blockStart
  /-- Within a block; `star` tells that the last character may begin its end. -/
  | block (star : Bool)

/-- Drops the comments of a text that is read from a state. -/
def stripFrom : CommentState → Text → Text
  | _, [] => []
  | .plain, c :: rest =>
    if c = '"' then c :: stripFrom (.string false) rest
    else if c = '#' then stripFrom .toLineEnd rest
    else if c = '/' && rest.head? = some '*' then stripFrom .blockStart rest
    else c :: stripFrom .plain rest
  | .string escaped, c :: rest =>
    if escaped then c :: stripFrom (.string false) rest
    else if c = '\\' then c :: stripFrom (.string true) rest
    else if c = '"' then c :: stripFrom .plain rest
    else c :: stripFrom (.string false) rest
  | .toLineEnd, c :: rest =>
    if c = '\n' then c :: stripFrom .plain rest else stripFrom .toLineEnd rest
  | .blockStart, _ :: rest => stripFrom (.block false) rest
  | .block star, c :: rest =>
    if star && c = '/' then stripFrom .plain rest else stripFrom (.block (c = '*')) rest

/-- The text without its comments. -/
def stripComments (t : Text) : Text := stripFrom .plain t

end SiteGate.Json
