import SlotAllocation.Json.Canonical
import SlotAllocation.Net.Url

/-!
# Identifiers and references of a schema document

Before a schema document is compiled, its identifiers and references are read against the
place where they stand:

1. an object with a string `id` (or, when it has no `id` member, a string `$id`) that reads
   as a URL reference is known by that reference read against the enclosing identifier, and
   its own identifier encloses everything inside it; an object whose identifier is already
   known is left as it is, with everything inside it;
2. a string `$ref` that reads as a URL reference is replaced by its absolute form, read
   against the enclosing identifier;
3. the values of `const` and `enum` are data and are not walked; the members of
   `properties`, `dependencies` and `patternProperties` are names, so only their values are
   walked;
4. the whole document is known by the empty reference.

`Known.resolve` then finds the document a reference names: a known document, or else the
known document named by the reference without its fragment, followed by the pointer the
fragment holds. Any other reference would have to be fetched, which is refused.
-/

namespace SlotAllocation

/-- Documents known by the text of their identifier, in the order they were met. -/
abbrev Known := List (String × Json)

/-- Whether a value is a string. -/
def Json.isText : Json → Bool
  | .str _ => true
  | _ => false

/-- A reference string read against `scope`; a value that is not a reference stays. -/
def absoluteRef (scope : Url) (v : Json) : Json :=
  match v with
  | .str s =>
    match Url.parse s with
    | .ok r => .str (scope.inherit r).text
    | .error _ => v
  | _ => v

mutual
/-- Makes the references inside a value absolute against `scope`, recording the objects that
carry an identifier. -/
def Json.withAbsoluteRefs (scope : Url) : Json → StateM Known Json
  | .arr items => do pure (.arr (← absoluteItems scope items))
  | .obj ms => do
    let idKey := if ms.any (·.1 == "id") then "id" else "$id"
    let named : Option Url :=
      match ((ms.reverse.find? (·.1 == idKey)).map Prod.snd) with
      | some (.str s) => (Url.parse s).toOption.map scope.inherit
      | _ => none
    match named with
    | some u =>
      let key := u.text
      if (← get).any (·.1 == key) then return .obj ms
      modify (· ++ [(key, .null)])
      let result := Json.obj (← absoluteMembers u ms)
      modify fun known => known.map fun e => if e.1 == key then (key, result) else e
      return result
    | none => pure (.obj (← absoluteMembers scope ms))
  | j => pure j

/-- Makes the references inside array items absolute. -/
def absoluteItems (scope : Url) : List Json → StateM Known (List Json)
  | [] => pure []
  | j :: rest => do
    let j ← j.withAbsoluteRefs scope
    pure (j :: (← absoluteItems scope rest))

/-- Makes the references inside the members of a schema object absolute; a member repeated
later is left as it is, the later one standing for it. -/
def absoluteMembers (scope : Url) : List (String × Json) → StateM Known (List (String × Json))
  | [] => pure []
  | (k, v) :: rest => do
    let v ← if rest.any (·.1 == k) || k == "const" || k == "enum" then pure v
      else if k == "$ref" && v.isText then pure (absoluteRef scope v)
      else if k == "properties" || k == "dependencies" || k == "patternProperties" then
        match v with
        | .obj cs => do pure (.obj (← absoluteValues scope cs))
        | _ => pure v
      else v.withAbsoluteRefs scope
    pure ((k, v) :: (← absoluteMembers scope rest))

/-- Makes the references inside the values of named members absolute. -/
def absoluteValues (scope : Url) : List (String × Json) → StateM Known (List (String × Json))
  | [] => pure []
  | (k, v) :: rest => do
    let v ← if rest.any (·.1 == k) then pure v else v.withAbsoluteRefs scope
    pure ((k, v) :: (← absoluteValues scope rest))
end

/-- A schema document with its references made absolute, and the documents known by
identifier, the whole document last under the empty reference. -/
def Json.identified (doc : Json) : Json × Known :=
  let (doc, known) := (doc.withAbsoluteRefs {}).run []
  (doc, known.filter (·.1 != "") ++ [("", doc)])

/-- The host of an authority without its port. -/
def hostName (host : String) : String :=
  if host.startsWith "[" then
    String.ofList ((host.toList.drop 1).takeWhile (· != ']'))
  else String.ofList (host.toList.takeWhile (· != ':'))

/-- The document an absolute reference names: a known document, or a pointer into the known
document named without the fragment. A reference to anything else is refused as it would
have to be fetched: without a scheme and host (or a file path) it is not canonical. -/
def Known.resolve (known : Known) (ref : String) : Except String Json := do
  let u ← Url.parse ref
  let key := u.text
  match known.lookup key with
  | some d => pure d
  | none =>
    let whole := { u with fragment := "", rawFragment := "" }.text
    match known.lookup whole with
    | some d => d.atPointer (pointerSteps u.fragment)
    | none =>
      if u.scheme == "file" then
        if u.path.startsWith "/" then
          let file := if whole.startsWith "file://" then String.ofList (whole.toList.drop 7) else whole
          throw ("open " ++ file ++ ": no such file or directory")
        else throw ("Reference " ++ key ++ " must be canonical")
      else if u.scheme.isEmpty || u.host.isEmpty then throw ("Reference " ++ key ++ " must be canonical")
      else throw ("Get " ++ Text.quote whole ++ ": dial tcp: lookup " ++ hostName u.host ++ ": no such host")

end SlotAllocation
