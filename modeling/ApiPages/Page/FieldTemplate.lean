import ApiPages.Page.Layout

namespace ApiPages.Layout

-- What stands for a field. Only the names of single texts are known.
def Fields.value (fields : Fields) (name : String) : Except TemplateError String :=
  match name with
  | "title" => .ok (Html.escape fields.title)
  | "path" => .ok (Html.escape fields.path)
  | "body" => .ok fields.body
  | _ => .error ⟨"There is no field " ++ Text.quoted name⟩

-- Fill a template from a place on; inside of a field its name so far is kept last first.
def fillFrom (fields : Fields) : Option (List Char) → List Char → Except TemplateError String
  | none, [] => .ok ""
  | none, '\x7b' :: '\x7b' :: rest => fillFrom fields (some []) rest
  | none, '\x7b' :: '%' :: _ | none, '\x7b' :: '#' :: _ => .error ⟨"There are no statements"⟩
  | none, c :: rest => do return String.singleton c ++ (← fillFrom fields none rest)
  | some _, [] => .error ⟨"A field is not closed"⟩
  | some name, '\x7d' :: '\x7d' :: rest => do
    let value ← fields.value (String.ofList (Text.trim name.reverse))
    return value ++ (← fillFrom fields none rest)
  | some name, c :: rest => fillFrom fields (some (c :: name)) rest

-- The last line feed of a template is not part of it.
def dropFinalBreak (cs : List Char) : List Char :=
  if cs.getLast? = some '\n' then cs.dropLast else cs

-- The language of templates that hold text, and fields in double braces for the title, the path and
-- the body of a page. Anything else in braces is refused.
@[reducible] def fieldTemplates : TemplateLanguage where
  fill source fields :=
    match fillFrom fields none (dropFinalBreak source.toList) with
    | .ok text => .done text
    | .error error => .failed error

end ApiPages.Layout
