import ApiPages.Document.Node

namespace ApiPages.Node

@[simp] theorem toTexts_nil : toTexts [] = "" := rfl

@[simp] theorem toTexts_cons (node : Node) (rest : List Node) :
    toTexts (node :: rest) = node.toText ++ toTexts rest := rfl

@[simp] theorem toText_text (s : String) : (Node.text s).toText = s := rfl

@[simp] theorem toText_span (children : List Node) (className : String) :
    (Node.span children className).toText = toTexts children := rfl

@[simp] theorem toText_link (href label : String) : (Node.link href label).toText = label := by
  rw [link, toText, toTexts_cons, toText_text, toTexts_nil, String.append_empty]

@[simp] theorem toTexts_append (nodes others : List Node) :
    toTexts (nodes ++ others) = toTexts nodes ++ toTexts others := by
  induction nodes with
  | nil => simp
  | cons node rest ih => simp [ih, String.append_assoc]

theorem toTexts_join (separator : String) (groups : List (List Node)) :
    toTexts (join separator groups) = separator.intercalate (groups.map toTexts) := by
  induction groups with
  | nil => simp [join]
  | cons group rest ih =>
      cases rest with
      | nil => simp [join]
      | cons next rest =>
          rw [List.map_cons, List.map_cons, String.intercalate_cons_cons, ← List.map_cons, ← ih]
          simp [join, String.append_assoc]

end ApiPages.Node
