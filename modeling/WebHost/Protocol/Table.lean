/-
Module: WebHost.Protocol.Table
Purpose: The protocols that a server speaks, and the choice among them.
Main exports:
  ProtocolTable, ProtocolTable.add, ProtocolTable.get?, ProtocolTable.names,
  ProtocolTable.negotiate
-/

namespace WebHost

/-!
Protocols stand in the order of their first registration, each with the handler
registered last.  The choice follows the client: the first of its offers that
the table knows.  Only a client that offers nothing gets the default protocol.
-/

/-- Protocol names with their handlers, of some type `η`. -/
structure ProtocolTable (η : Type) where
  entries : List (String × η)
deriving Repr, Inhabited

namespace ProtocolTable

variable {η : Type}

def empty : ProtocolTable η := { entries := [] }

/-- Replace the handler of a name where it stands, or add both at the end. -/
def addEntry (name : String) (handler : η) : List (String × η) → List (String × η)
  | [] => [(name, handler)]
  | (first, old) :: rest =>
      if first = name then (first, handler) :: rest
      else (first, old) :: addEntry name handler rest

/-- Register a handler for a protocol. -/
def add (table : ProtocolTable η) (name : String) (handler : η) : ProtocolTable η :=
  { entries := addEntry name handler table.entries }

/-- The handler of a protocol. -/
def get? (table : ProtocolTable η) (name : String) : Option η :=
  table.entries.lookup name

def names (table : ProtocolTable η) : List String :=
  table.entries.map (·.1)

def isEmpty (table : ProtocolTable η) : Bool :=
  table.entries.isEmpty

def knows (table : ProtocolTable η) (name : String) : Bool :=
  (table.get? name).isSome

/-- The protocol for a client with these offers. -/
def negotiate (table : ProtocolTable η) (offers : List String) (default : Option String) :
    Option String :=
  if offers = [] then default.filter table.knows else offers.find? table.knows

end ProtocolTable

end WebHost
