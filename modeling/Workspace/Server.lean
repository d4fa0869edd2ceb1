import Workspace.Presence

/-! Servers: the named endpoints of a machine. A description of one is any object, and is
passed on as it is. -/
namespace Workspace
open Json (Shape Layout Decoder)

structure Server where
  members : Dict Json

namespace Server

def shape : Shape := .object

def ofJson (v : Json) : Server := ⟨v.asDict⟩

def decoder : Decoder Server := ⟨shape, ofJson⟩

def toJson (s : Server) : Json := .object s.members

def layout (s : Server) : Layout := .value s.toJson

/-- A number, a text, or whatever was stored. -/
def portValue? (s : Server) : Option Json := s.members.get? "port"

def protocol? (s : Server) : Option String := (s.members.get? "protocol").bind Json.asString?

def same (s t : Server) : Bool := s.members.agree Json.same t.members

end Server

/-- The servers of a machine by name. -/
abbrev Servers := Dict Server

namespace Servers

def shape : Shape := .dict Server.shape

def ofJson (v : Json) : Servers := v.asDict.mapValues Server.ofJson

def decoder : Decoder Servers := ⟨shape, ofJson⟩

def toJson (servers : Servers) : Json := .object (Chain.mapValues Server.toJson servers)

def same (s t : Servers) : Bool := Chain.agree Server.same s t

end Servers

/-- The agents of a machine; the order is that of installation. -/
abbrev Agents := List String

namespace Agents

def shape : Shape := .list .string

def ofJson (v : Json) : Agents := v.asList.map Json.asString

def decoder : Decoder Agents := ⟨shape, ofJson⟩

def toJson (agents : Agents) : Json := .list (agents.map .string)

end Agents

end Workspace
