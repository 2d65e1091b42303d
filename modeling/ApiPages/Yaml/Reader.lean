import ApiPages.Yaml.Content
import ApiPages.Yaml.Scalar

namespace ApiPages.Yaml

namespace Content

def scalarTag (tag : Option String) (plain : Bool) (text : String) : String :=
  match tag with
  | some tag => tag
  | none => if plain then plainTag text else Tag.text

-- Whether a key stands for the members of other mappings.
def isMergeKey : Content → Bool
  | scalar tag plain s => scalarTag tag plain s = Tag.merge
  | _ => false

-- A lone equals sign is text when it is a key.
def asKey : Content → Content
  | scalar tag plain s =>
    if scalarTag tag plain s = Tag.default then scalar (some Tag.text) plain s
    else scalar tag plain s
  | content => content

-- The members of a mapping after those that it takes over from other mappings.
def allMembers : Nat → List (Content × Content) → Except ReadError (List (Content × Content))
  | 0, _ => .error .malformed
  | fuel + 1, members => do
    let own := (members.filter fun (key, _) => !isMergeKey key).map fun (key, value) =>
      (asKey key, value)
    let taken ← (members.filter fun (key, _) => isMergeKey key).mapM fun (_, value) =>
      match value with
      | .mapping _ members => allMembers fuel members
      | .list _ items => do
        let lists ← items.mapM fun item =>
          match item with
          | .mapping _ members => allMembers fuel members
          | _ => .error .malformed
        return lists.reverse.flatten
      | .scalar .. => .error .malformed
    return taken.flatten ++ own

def key? : Yaml → Except ReadError Key
  | .null => .ok .null
  | .scalar s => .ok (.scalar s)
  | .stamp value => .ok (.stamp value)
  | _ => .error .malformed

-- The value of content whose depth is below the fuel.
def value : Nat → Content → Except ReadError Yaml
  | 0, _ => .error .malformed
  | fuel + 1, content => do
    match content with
    | .scalar tag plain s => readScalar (scalarTag tag plain s) s
    | .list tag items =>
      if tag.any (· ≠ Tag.list) then throw .malformed
      return .list (← items.mapM (value fuel))
    | .mapping tag members =>
      if tag.any (· ≠ Tag.mapping) then throw .malformed
      let members ← allMembers (fuel + 1) members
      let members ← members.mapM fun (key, item) => do
        return (← key? (← value fuel key), ← value fuel item)
      return ofMembers members

end Content

-- Read a text with at most one document; without one the value is null.
def read (text : String) : Except ReadError Yaml :=
  match content? text.toList with
  | none => .error .malformed
  | some none => .ok .null
  | some (some content) => content.value (2 * text.length + 3)

end ApiPages.Yaml
