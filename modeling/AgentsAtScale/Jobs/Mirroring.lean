import AgentsAtScale.Jobs.RequestLaws

namespace AgentsAtScale.Jobs

namespace Spelled

variable {fields : List String} {members : List (String × Json)} {field : String}

end Spelled

def Plain (s : String) : Prop := ∀ c ∈ s.toList, 0x20 ≤ c.toNat ∧ c.toNat < 0x7f

section

variable {members : List (String × Json)}

end

section

variable {members : List (String × Json)}

end

namespace Sample

def answer (confirmed : Bool) (selection : Json) : Json :=
  .object [("confirmed", .bool confirmed), ("selection", selection)]

end Sample

end AgentsAtScale.Jobs
