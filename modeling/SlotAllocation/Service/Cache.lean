import SlotAllocation.Table

/-!
# The cache

The cache is a key-value store of texts. It holds each batch's run lock, the cached summary
of its last committed run and the delivery marks of notifications; entries never expire
within the time this model covers.

Commands can be made to fail, to model an unreliable cache: either every command fails with
one message (the server is down), or a rule fails the commands with a given name (or any
name, when the rule names none) whose key starts with a given prefix. The first rule that
matches decides the message.

The lock is released by a script that deletes the lock only when it still holds the run's
token. The script is first called by its digest; a server that does not know the script
answers `NOSCRIPT`, and the script is then sent whole, after which the server knows it. Any
other failure of the call by digest is the release's failure, and the lock stays.
-/

namespace SlotAllocation

/-- A rule failing matching cache commands. -/
structure CacheRule where
  /-- The lower-case command name, or empty for every command. -/
  command : String
  keyPrefix : String
  message : String
deriving Repr

/-- How cache commands fail during one step. -/
structure CacheFaults where
  /-- The message every command fails with, if the server is down. -/
  down : Option String := none
  rules : List CacheRule := []

/-- The message a command `name` on `key` fails with, if it fails. -/
def CacheFaults.failure? (f : CacheFaults) (name key : String) : Option String :=
  let ruled := (f.rules.find? fun r =>
    (r.command.isEmpty || r.command == name) && key.startsWith r.keyPrefix).map (·.message)
  match ruled with
  | some m => some m
  | none => f.down

/-- The cache's entries, and whether it knows the release script. -/
structure Cache where
  entries : Table String
  knowsScript : Bool := false

namespace Cache

/-- Sets `key` unless it is present; true when it was set. -/
def setIfAbsent (c : Cache) (f : CacheFaults) (key value : String) : Cache × Except String Bool :=
  match f.failure? "set" key with
  | some m => (c, .error m)
  | none =>
    if c.entries.contains key then (c, .ok false)
    else ({ c with entries := c.entries.insert key value }, .ok true)

/-- Sets `key`. -/
def set (c : Cache) (f : CacheFaults) (key value : String) : Cache × Except String Unit :=
  match f.failure? "set" key with
  | some m => (c, .error m)
  | none => ({ c with entries := c.entries.insert key value }, .ok ())

/-- The value of `key`, none when absent. -/
def get (c : Cache) (f : CacheFaults) (key : String) : Except String (Option String) :=
  match f.failure? "get" key with
  | some m => .error m
  | none => .ok (c.entries.find? key)

/-- Deletes `key`. -/
def delete (c : Cache) (f : CacheFaults) (key : String) : Cache × Except String Unit :=
  match f.failure? "del" key with
  | some m => (c, .error m)
  | none => ({ c with entries := c.entries.filter fun k _ => k != key }, .ok ())

/-- Whether `key` is present. -/
def exists? (c : Cache) (f : CacheFaults) (key : String) : Except String Bool :=
  match f.failure? "exists" key with
  | some m => .error m
  | none => .ok (c.entries.contains key)

/-- The release script itself: deletes `key` when it holds `token`. -/
def releaseScript (c : Cache) (key token : String) : Cache :=
  if c.entries.find? key == some token then { c with entries := c.entries.filter fun k _ => k != key }
  else c

/-- Releases the lock `key` held by `token` through the release script. -/
def release (c : Cache) (f : CacheFaults) (key token : String) : Cache × Except String Unit :=
  let byDigest : Except String Unit :=
    match f.failure? "evalsha" key with
    | some m => .error m
    | none => if c.knowsScript then .ok () else .error "NOSCRIPT No matching script. Please use EVAL."
  match byDigest with
  | .ok () => (c.releaseScript key token, .ok ())
  | .error m =>
    if m.startsWith "NOSCRIPT" then
      match f.failure? "eval" key with
      | some m => (c, .error m)
      | none => ({ c.releaseScript key token with knowsScript := true }, .ok ())
    else (c, .error m)

end Cache

end SlotAllocation
