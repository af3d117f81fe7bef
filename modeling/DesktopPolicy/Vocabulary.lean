-- The words that rules are written in: verbs and resource types. Either has a wildcard, which is
-- compared like any other word. A word outside the vocabulary is kept as it is.
namespace DesktopPolicy

/-- The wildcard of every dimension. -/
def wildcard : String := "*"

/-! ## Verbs -/

inductive Verb where
  | create
  | read
  | update
  | delete
  /-- Only service accounts are used. -/
  | use
  | launch
  | all
  | other (word : String)
  deriving DecidableEq, Repr

namespace Verb

def vocabulary : List Verb := [create, read, update, delete, use, launch, all]

/-- The word for a verb. -/
def word : Verb → String
  | create => "create"
  | read => "read"
  | update => "update"
  | delete => "delete"
  | use => "use"
  | launch => "launch"
  | all => wildcard
  | other word => word

/-- `parse_verb`: the verb that a word stands for. -/
def ofWord (word : String) : Verb :=
  (vocabulary.find? fun verb => verb.word == word).getD (other word)

def isKnown (verb : Verb) : Bool := vocabulary.any fun known => known.word == verb.word

def memberName? : Verb → Option String
  | create => some "CREATE"
  | read => some "READ"
  | update => some "UPDATE"
  | delete => some "DELETE"
  | use => some "USE"
  | launch => some "LAUNCH"
  | all => some "ALL"
  | other _ => none

end Verb

/-! ## Resource types -/

inductive Resource where
  | users
  | roles
  | templates
  /-- To use a service account is to take on its identity in a desktop session. -/
  | serviceAccounts
  | all
  | other (word : String)
  deriving DecidableEq, Repr

namespace Resource

/-- `CONCRETE_RESOURCES`: the resource types without the wildcard. -/
def concrete : List Resource := [users, roles, templates, serviceAccounts]

def vocabulary : List Resource := concrete ++ [all]

/-- The word for a resource type. -/
def word : Resource → String
  | users => "users"
  | roles => "roles"
  | templates => "templates"
  | serviceAccounts => "serviceaccounts"
  | all => wildcard
  | other word => word

/-- `parse_resource`: the resource type that a word stands for. -/
def ofWord (word : String) : Resource :=
  (vocabulary.find? fun resource => resource.word == word).getD (other word)

def isKnown (resource : Resource) : Bool :=
  vocabulary.any fun known => known.word == resource.word

def memberName? : Resource → Option String
  | users => some "USERS"
  | roles => some "ROLES"
  | templates => some "TEMPLATES"
  | serviceAccounts => some "SERVICE_ACCOUNTS"
  | all => some "ALL"
  | other _ => none

end Resource

/-! ## Laws -/

theorem Verb.word_ofWord (word : String) : (Verb.ofWord word).word = word := by
  unfold Verb.ofWord
  cases h : Verb.vocabulary.find? fun verb => verb.word == word with
  | none => rfl
  | some verb => simpa using List.find?_some h

theorem Resource.word_ofWord (word : String) : (Resource.ofWord word).word = word := by
  unfold Resource.ofWord
  cases h : Resource.vocabulary.find? fun resource => resource.word == word with
  | none => rfl
  | some resource => simpa using List.find?_some h

end DesktopPolicy
