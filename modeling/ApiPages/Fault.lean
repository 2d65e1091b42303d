import ApiPages.Model.Notation
import ApiPages.Yaml.Scalar

namespace ApiPages

-- Extracted metadata that falls outside the known grammar, found while reading it or later.
inductive InputError where
  | unreadable (file reason : String)
  | projectWithoutChildren
  | notAProject (json : Json)
  | declarationNotObject (json : Json)
  | declarationUnnamed (json : Json)
  | typeNotObject (json : Json)
  | unknownType (json : Json)
  | unknownKind (json : Json)
  | signatureNotObject (json : Json)
  | typeWithoutList (name : String) (json : Json)
  | typeWithout (name : String) (json : Json)
  | shapeWithoutDeclaration (json : Json)
  | indexWithoutKey (name : String)
  | inlineUnresolved (name : String)
  | omitArguments (arguments : List TypeExpr)
  | omitKeys (keys : TypeExpr)
  | baseUnresolved (name : String)
  | baseMissing
  | baseUnsupported (base : TypeExpr)
  | declarationAsType (declaration : Declaration)

namespace InputError

-- A null value is not shown.
def withJson (message : String) : Json → String
  | .null => message
  | json => message ++ ": " ++ json.quoted

def message : InputError → String
  | unreadable file reason => file ++ " is not valid JSON: " ++ reason
  | projectWithoutChildren => "Project JSON has no 'children' list"
  | notAProject json =>
    "Expected a list of declarations or a project object: " ++ Text.quoted json.sortName
  | declarationNotObject json => withJson "Declaration must be a mapping" json
  | declarationUnnamed json => withJson "Declaration is missing a name" json
  | typeNotObject json => withJson "Type expression must be a mapping" json
  | unknownType json => withJson ("Unknown type " ++ (json.get "type").plain) json
  | unknownKind json => withJson "Unknown declaration kind" json
  | signatureNotObject json => withJson "Signature must be a mapping" json
  | typeWithoutList name json => withJson ("Type is missing its '" ++ name ++ "' list") json
  | typeWithout name json => withJson ("Type is missing '" ++ name ++ "'") json
  | shapeWithoutDeclaration json => withJson "Unknown type reflection without declaration" json
  | indexWithoutKey name => "Index signature has no key parameter: " ++ Text.quoted name
  | inlineUnresolved name => "Inline type has no resolvable definition: " ++ Text.quoted name
  | omitArguments arguments =>
    "Omit expects two type arguments: " ++ Notation.sequence (Notation.types arguments)
  | omitKeys keys => "Omit keys must be string literals: " ++ Notation.type keys
  | baseUnresolved name => "Cannot resolve base type: " ++ Text.quoted name
  | baseMissing => "Unsupported base type"
  | baseUnsupported base => "Unsupported base type: " ++ Notation.type base
  | declarationAsType declaration =>
    "Unknown type Declaration: " ++ Notation.declaration declaration

end InputError

-- Settings that cannot be used.
inductive SettingsError where
  | unreadable (file : String)
  | notMapping (file : String)
  | invalidPattern (pattern : String)
  | substitutionIncomplete
  | aliasIncomplete

def SettingsError.message : SettingsError → String
  | unreadable file => "Failed to parse " ++ file
  | notMapping file => file ++ " must contain a mapping at the root"
  | invalidPattern pattern => "Invalid edit_url.pattern " ++ Text.quoted pattern
  | substitutionIncomplete => "substitution requires both 'name' and 'default'"
  | aliasIncomplete => "extends_aliases entries require 'suffix' and 'name'"

-- A format whose fields cannot be filled in.
inductive FormatError where
  | malformed
  | noSuchPosition
  | noSuchName
  | noSuchAttribute
  | unsupported

def FormatError.message : FormatError → String
  | malformed => "The edit link template is malformed"
  | noSuchPosition => "The edit link template asks for a group that the pattern does not have"
  | noSuchName => "The edit link template asks for a name"
  | noSuchAttribute => "The edit link template asks for an attribute"
  | unsupported => "The edit link template asks for a part of a missing group"

-- What a file operation ran into, with the path as it was given.
inductive FileError where
  | notFound (path : String)
  | isDirectory (path : String)
  | notDirectory (path : String)
  | alreadyThere (path : String)
  | nameTooLong (path : String)
  | notPermitted (path : String)
  -- The file holds bytes that are no text.
  | undecodable (path : String)
  -- The path holds a character that no path can hold.
  | unusable (path : String)
  -- The path starts in the home directory of someone unknown.
  | noHome (path : String)

def FileError.message : FileError → String
  | notFound path => "[Errno 2] No such file or directory: " ++ Text.quoted path
  | isDirectory path => "[Errno 21] Is a directory: " ++ Text.quoted path
  | notDirectory path => "[Errno 20] Not a directory: " ++ Text.quoted path
  | alreadyThere path => "[Errno 17] File exists: " ++ Text.quoted path
  | nameTooLong path => "[Errno 36] File name too long: " ++ Text.quoted path
  | notPermitted path => "[Errno 13] Permission denied: " ++ Text.quoted path
  | undecodable path => "No UTF-8 text: " ++ Text.quoted path
  | unusable _ => "embedded null byte"
  | noHome _ => "Could not determine home directory."

-- A template that a page cannot be laid out in, with what its language says about it.
structure TemplateError where
  message : String

inductive Fault where
  | input (error : InputError)
  | settings (error : SettingsError)
  | format (error : FormatError)
  | file (error : FileError)
  -- A number or a truth value stands where a sequence is read.
  | notSequence
  -- A fully qualified symbol that is compared with a suffix is not text.
  | symbolNotText
  -- A page cannot be laid out in the template of its project.
  | template (error : TemplateError)
  -- A Markdown extension that does not exist is asked for.
  | unknownExtension
  -- A tagged value in a settings file is not what its tag says.
  | mistagged (error : Yaml.ReadError)
  -- Inline types are expanded into each other without end.
  | tooDeep

def Fault.message : Fault → String
  | input error => error.message
  | settings error => error.message
  | format error => error.message
  | file error => error.message
  | notSequence => "A sequence is missing"
  | symbolNotText => "A fully qualified symbol is not text"
  | template error => error.message
  | unknownExtension => "There is no such Markdown extension"
  | mistagged _ => "A value in the settings is not what its tag says"
  | tooDeep => "Inline types are expanded into each other without end"

end ApiPages
