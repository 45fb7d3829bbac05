import PageTemplates.Charset.Utf8
import PageTemplates.Directive
import PageTemplates.Text.Quoted

/-!
# Responses

What is sent to a browser, and the pages that are sent when there is no page
to send. These are written in UTF-8, whatever the charset of the templates.
-/

namespace PageTemplates.Serve

/-- A request. -/
structure Request where
  method : String := "GET"
  path : String
deriving Repr, DecidableEq

/-- A response; `dated` says that it tells when its content last changed. -/
structure Response where
  status : Nat := 200
  contentType : Option String
  body : Bytes
  dated : Bool := false
deriving Repr, DecidableEq

/-- Why a header cannot be sent: characters outside Latin-1, with the position
of the first one. -/
structure HeaderError where
  position : Nat
  first : Char
  count : Nat
deriving Repr, DecidableEq

namespace HeaderError

/-- The first characters of a text that Latin-1 does not have. -/
def of? (s : String) : Option HeaderError :=
  let isOutside (c : Char) : Bool := 0xFF < c.toNat
  let before := s.toList.takeWhile fun c => !isOutside c
  let outside := (s.toList.drop before.length).takeWhile isOutside
  outside.head?.map fun first => ⟨before.length, first, outside.length⟩

/-- The wording of a header error. -/
def message (e : HeaderError) : String :=
  let last := e.position + e.count - 1
  let what :=
    if e.count = 1 then
      " '" ++ String.ofList (Text.codeEscape e.first) ++ "' in position " ++ toString e.position
    else "s in position " ++ toString e.position ++ "-" ++ toString last
  "'latin-1' codec can't encode character" ++ what ++ ": ordinal not in range(256)"

end HeaderError

namespace Response

/-- A short message. -/
def plain (status : Nat) (message : String) : Response :=
  { status, contentType := some "text/plain; charset=utf-8", body := Utf8.encode message.toList }

/-- A page; its type is written in Latin-1. -/
def page (type : String) (body : Bytes) : Except HeaderError Response :=
  match HeaderError.of? type with
  | some e => .error e
  | none => .ok { contentType := some type, body }

/-- A page of the server's own. -/
def html (status : Nat) (markup : String) : Response :=
  { status, contentType := some "text/html; charset=utf-8", body := Utf8.encode markup.toList }

end Response

/-! ## Pages of errors -/

namespace ErrorPage

/-- One character of a text inside markup. -/
def escapeChar (c : Char) : List Char :=
  match c with
  | '&' => "&amp;".toList
  | '<' => "&lt;".toList
  | '>' => "&gt;".toList
  | '\'' => "&#39;".toList
  | '"' => "&#34;".toList
  | c => [c]

/-- A text inside markup. -/
def escape (s : String) : String := String.ofList (s.toList.flatMap escapeChar)

/-- The style sheet of all these pages. -/
def style : String :=
  "  body \x7b font-family: system-ui, sans-serif; margin: 2rem; color: #1f2933; \x7d\n"
    ++ "  h1 \x7b color: #0e7490; font-size: 1.5rem; \x7d\n"
    ++ "  pre \x7b background: #f1f5f9; padding: 1rem; overflow-x: auto; \x7d\n"
    ++ "  .dim \x7b color: #64748b; \x7d\n"

/-- A page with a title and markup for its body. -/
def layout (title body : String) : String :=
  "<!DOCTYPE html>\n<html>\n<head>\n<meta charset=\"utf-8\">\n<title>" ++ escape title
    ++ "</title>\n<style>\n" ++ style ++ "</style>\n</head>\n<body>\n" ++ body
    ++ "\n</body>\n</html>"

/-- The page for a name that leads to no template. -/
def notFound (name : String) : Response :=
  .html 404 (layout "Not Found"
    ("\n<h1>404 Not Found</h1>\n<p>" ++ escape ("No template named " ++ name) ++ "</p>\n"))

/-- The page for a template that cannot be compiled. -/
def notCompiled (e : TemplateError) : Response :=
  let part (markup : Option String) (f : String → String) : String :=
    (markup.filter (!·.isEmpty)).elim "" f
  .html 500 (layout "Template translation failed"
    ("\n<h1>Template translation failed</h1>\n"
      ++ part e.templateId (fun id => "<p class=\"dim\">" ++ escape id ++ "</p>")
      ++ "\n<p>" ++ escape e.message ++ "</p>\n"
      ++ part e.markup (fun markup => "\n<pre>" ++ escape markup ++ "</pre>\n") ++ "\n"))

end ErrorPage

end PageTemplates.Serve
