import Std.Data.HashMap
import TaskTitles.Text.Blank
import TaskTitles.Text.Case

/-!
# Catalogs of contexts and folders

A catalog lists the contexts, or the folders, of one user.  Every lookup answers the first entry
that matches, in the order of the list.  Numbers and exact names are looked up in indexes that are
built with the catalog; `findById?_eq` and `findByName?_eq` say that they answer what a scan
would.
-/

namespace TaskTitles

open Text

structure Context where
  id : Int
  name : Text
  deriving Repr, DecidableEq

namespace Context

/-- The name without the code in front of it: what follows the first blank, unless the name starts
    with one. -/
def bareName (c : Context) : Text :=
  match cut? " " c.name with
  | some (_ :: _, rest) => strip rest
  | _ => c.name

end Context

/-! ## Indexes -/

/-- An index of the entries by a key, where the first entry of a key stays. -/
def indexBy {κ : Type} [BEq κ] [Hashable κ] (key : Context → κ) (entries : List Context) :
    Std.HashMap κ Context :=
  entries.foldl (fun index entry => index.insertIfNew (key entry) entry) ∅

theorem getElem?_indexBy_foldl {κ : Type} [BEq κ] [LawfulBEq κ] [Hashable κ] (key : Context → κ)
    (entries : List Context) (index : Std.HashMap κ Context) (k : κ) :
    (entries.foldl (fun index entry => index.insertIfNew (key entry) entry) index)[k]? =
      index[k]?.or (entries.find? (key · == k)) := by
  induction entries generalizing index with
  | nil => simp
  | cons entry rest ih =>
    rw [List.foldl_cons, ih, Std.HashMap.getElem?_insertIfNew, List.find?_cons]
    by_cases hk : key entry = k
    · subst hk
      by_cases hmem : key entry ∈ index <;> simp [hmem]
    · have hbeq : (key entry == k) = false := by simpa using hk
      simp [hbeq]

/-- The index answers the first entry of the key. -/
theorem getElem?_indexBy {κ : Type} [BEq κ] [LawfulBEq κ] [Hashable κ] (key : Context → κ)
    (entries : List Context) (k : κ) :
    (indexBy key entries)[k]? = entries.find? (key · == k) := by
  simp [indexBy, getElem?_indexBy_foldl]

/-! ## Catalogs -/

structure Catalog where
  entries : List Context
  ids : Std.HashMap Int Context := indexBy (·.id) entries
  names : Std.HashMap Text Context := indexBy (·.name) entries
  ids_eq : ids = indexBy (·.id) entries := by rfl
  names_eq : names = indexBy (·.name) entries := by rfl

namespace Catalog

def ofList (entries : List Context) : Catalog := { entries }

def size (catalog : Catalog) : Nat := catalog.entries.length

/-- The names of the entries, as a message shows a catalog. -/
def summary (catalog : Catalog) : Text :=
  "ContextCatalog([" ++ joinWith ", " (catalog.entries.map (·.name)) ++ "])"

def findById? (catalog : Catalog) (id : Int) : Option Context := catalog.ids[id]?

def findByName? (catalog : Catalog) (name : Text) : Option Context := catalog.names[name]?

/-- The first entry whose name starts with `start`, case aside.  As many characters of the name are
    compared as `start` has. -/
def findByStart? (catalog : Catalog) (start : Text) : Option Context :=
  let wanted := lower start
  catalog.entries.find? fun c => lower (c.name.take start.length) == wanted

/-- The first entry whose name, with or without its code, is `name`, case aside. -/
def findByBareName? (catalog : Catalog) (name : Text) : Option Context :=
  let wanted := lower name
  catalog.entries.find? fun c => lower c.name == wanted || lower c.bareName == wanted

/-- What stands between a code and the rest of a name. -/
def codeSeparator : Text := " - "

/-- The first entry whose name is the code, the separator and something more or nothing. -/
def findByCode? (catalog : Catalog) (code : Text) : Option Context :=
  catalog.entries.find? fun c => startsWith (code ++ codeSeparator) c.name

@[simp] theorem entries_ofList (entries : List Context) : (ofList entries).entries = entries := rfl

theorem findById?_eq (catalog : Catalog) (id : Int) :
    catalog.findById? id = catalog.entries.find? (·.id == id) := by
  simp [findById?, catalog.ids_eq, getElem?_indexBy]

theorem findByName?_eq (catalog : Catalog) (name : Text) :
    catalog.findByName? name = catalog.entries.find? (·.name == name) := by
  simp [findByName?, catalog.names_eq, getElem?_indexBy]

end Catalog

end TaskTitles
