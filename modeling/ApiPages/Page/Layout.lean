import ApiPages.Document.Html
import ApiPages.Page.Basic

namespace ApiPages.Layout

-- What a shell is put around.
structure Content where
  title : String
  path : String
  menu : List MenuItem
  tree : List Node

def siteTitle : String := "API"

def entryLine (indent : String) (entry : MenuEntry) : String :=
  indent ++ "<li><a href=\"" ++ Html.escape entry.link ++ "\"><code>" ++ Html.escape entry.label ++
    "</code></a></li>\n"

def itemLines : MenuItem → String
  | .entry entry => entryLine "      " entry
  | .group title entries =>
    "      <li>\n        " ++ Html.escape title ++ "\n        <ul>\n" ++
      String.join (entries.map (entryLine "          ")) ++ "        </ul>\n      </li>\n"

def standardShell (content : Content) : String :=
  "<!DOCTYPE html>\n<html lang=\"en\">\n<head>\n  <meta charset=\"utf-8\">\n  <title>" ++
    Html.escape content.title ++ "</title>\n</head>\n<body>\n  <nav class=\"submenu\" data-path=\"" ++
    Html.escape content.path ++ "\">\n    <ul>\n" ++ String.join (content.menu.map itemLines) ++
    "    </ul>\n  </nav>\n  <main>\n" ++ Html.ofNodes content.tree ++ "\n  </main>\n</body>\n</html>"

-- What a template can put into a page.
structure Fields where
  title : String
  path : String
  menu : List MenuItem
  -- The HTML of the page, which is not to be escaped.
  body : String

def Content.fields (content : Content) : Fields :=
  { title := content.title, path := content.path, menu := content.menu,
    body := Html.ofNodes content.tree }

-- What filling a template comes to: a text, or a failure. On the way it may ask for the texts of other
-- templates by their names; there need not be a template with a name.
inductive Filling where
  | done (text : String)
  | failed (error : TemplateError)
  | asks (name : String) (next : Option String → Filling)

namespace Filling

-- What a filling comes to where the templates are those that are found by their names.
def result (find : String → Except Fault (Option String)) : Filling → Except Fault String
  | done text => .ok text
  | failed error => .error (.template error)
  | asks name next => do (next (← find name)).result find

-- The names of the templates that a filling asks for.
def asked (find : String → Except Fault (Option String)) : Filling → List String
  | done _ | failed _ => []
  | asks name next =>
    name :: match find name with
      | .ok source => (next source).asked find
      | .error _ => []

end Filling

-- What a language of templates makes of the text of a template.
class TemplateLanguage where
  fill : (source : String) → Fields → Filling

def templateFile : String := "page.html.j2"

-- The page in the template for pages, or in the standard shell if there is none.
def render [TemplateLanguage] (content : Content) : Filling :=
  .asks templateFile fun template =>
    match template with
    | some source => TemplateLanguage.fill source content.fields
    | none => .done (standardShell content)

end ApiPages.Layout
