import UiToolkit.Policy.PropertyTable

/-!
# Translation policy

What may appear in USS: a table of properties, looked up in lower case, and a denylist of selector fragments. A fragment on the denylist is met when it occurs in a text, both in lower case.
-/

namespace UiToolkit

namespace Denylist

open Text

/-- The entries in lower case and in code point order, without empty ones. -/
def ofEntries (entries : List Text) : List Text :=
  sortedSet ((entries.map lower).filter (!·.isEmpty))

def bundled : List Text :=
  ["+", "~", "|", "@", ":not(", ":is(", ":where(", ":has(", ":-webkit-", "::-webkit-", ":-moz-", "::-moz-",
    ":-ms-", "::-ms-", "[href", "[data-", "[aria-", "[role", "[class", "[id", "[hidden", "[lang", "[dir",
    "[title", "[target", "[open"]

end Denylist

structure Policy where
  properties : Entries Support
  denylist : List Text

namespace Policy

open Text

def ofTables (properties : Entries Support) (breaking : List Text) : Policy :=
  ⟨properties.mapNames lower, Denylist.ofEntries breaking⟩

def bundled : Policy := ofTables PropertyTable.bundled Denylist.bundled

def lookup? (policy : Policy) (property : Text) : Option Support := policy.properties.get? (lower property)

def isKnown (policy : Policy) (property : Text) : Bool := (policy.lookup? property).isSome

def isNative (policy : Policy) (property : Text) : Bool := (policy.lookup? property).any (·.native)

/-- The first denylisted fragment, in code point order, that occurs in the text. -/
def breakingMatch? (policy : Policy) (text : Text) : Option Text :=
  policy.denylist.find? fun fragment => occursIn fragment (lower text)

end Policy

end UiToolkit
