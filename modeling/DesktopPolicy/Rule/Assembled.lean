-- Rules as a program puts them together. An entry of a field is a text, or a member of an
-- enumeration of texts, and is compared by its word. A verb or a resource type is also written by its
-- word. A pattern or a namespace is written as it stands, and so a member is read under its own name.
import DesktopPolicy.Rule.Definition

namespace DesktopPolicy

/-- A text, or a member of an enumeration whose values are texts. -/
inductive Entry where
  | text (word : String)
  | member (kind name word : String)
  deriving DecidableEq, Repr

namespace Entry

/-- `to_string`: the word of a member. -/
def word : Entry → String
  | text word => word
  | member _ _ word => word

/-- `str`: a member is told by its kind and name. -/
def told : Entry → String
  | text word => word
  | member kind name _ => kind ++ "." ++ name

def ofVerb (verb : Verb) : Entry :=
  match verb.memberName? with
  | some name => member "Verb" name verb.word
  | none => text verb.word

def ofResource (resource : Resource) : Entry :=
  match resource.memberName? with
  | some name => member "Resource" name resource.word
  | none => text resource.word

end Entry

namespace Rule

/-- A rule with such entries in all fields. -/
structure Assembled where
  verbs : List Entry := []
  resources : List Entry := []
  patterns : List Entry := []
  namespaces : List Entry := []
  deriving DecidableEq, Repr

/-- The rule with its words of the vocabulary as members. -/
def assembled (rule : Rule) : Assembled where
  verbs := rule.verbs.map Entry.ofVerb
  resources := rule.resources.map Entry.ofResource
  patterns := rule.patterns.map Entry.text
  namespaces := rule.namespaces.map Entry.text

namespace Assembled

/-- `_sorted_strings` -/
def sortedWords (entries : List Entry) : List String := sorted (entries.map Entry.word)

/-- `Rule.deep_equal` -/
def deepEqual (a b : Assembled) : Bool :=
  sortedWords a.resources == sortedWords b.resources &&
    sortedWords a.verbs == sortedWords b.verbs &&
    sortedWords a.patterns == sortedWords b.patterns &&
    sortedWords a.namespaces == sortedWords b.namespaces

/-- The rules are equal as tuples of their fields. A member equals the text that is its word. -/
def same (a b : Assembled) : Bool :=
  a.verbs.map Entry.word == b.verbs.map Entry.word &&
    a.resources.map Entry.word == b.resources.map Entry.word &&
    a.patterns.map Entry.word == b.patterns.map Entry.word &&
    a.namespaces.map Entry.word == b.namespaces.map Entry.word

/-- `Rule.to_dict`: the fields that have something in them, with their entries. -/
def written (rule : Assembled) : List (String × List Entry) :=
  [(verbsField, rule.verbs.map fun entry => .text entry.word),
    (resourcesField, rule.resources.map fun entry => .text entry.word),
    (patternsField, rule.patterns), (namespacesField, rule.namespaces)].filter fun field =>
      !field.2.isEmpty

/-- `Rule.from_dict` of what was written. All that it asks of an entry is how `str` tells it. -/
def readBack (rule : Assembled) : Except DefinitionFault Rule :=
  ofValue (.map (rule.written.map fun field =>
    (.text field.1, textList (field.2.map Entry.told))))

end Assembled

end Rule

end DesktopPolicy
