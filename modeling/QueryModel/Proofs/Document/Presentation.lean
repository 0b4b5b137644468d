import QueryModel.Proofs.Document.Refusals
import QueryModel.Proofs.Json.Printing

/-!
# The presentation of documents

Texts are compared through their drafts.  Two texts whose drafts differ in the order of members, in
members of unknown keys and in the names of keys are read as the same document.  A text in which one
member more makes the draft one that is refused has the problem of that member.
`Document.ofText_presentation` states both.

What may be added depends on the place.  Outside of declared types a member of an unknown key may
have any value that is JSON.  Inside of them the value has to be readable, and a number out of range
is not.  A known key under two of its names is refused in any case, but which problem is reported
depends on the value that comes first.
-/

namespace QueryModel

open Json (Draft Fault Reading)

-- operations and fragments have keys with two names
example : Entity.operation.key? "name" = Entity.operation.key? "operationName" ∧
    Entity.operation.key? "kind" = Entity.operation.key? "operationType" ∧
    Entity.fragment.key? "name" = Entity.fragment.key? "fragmentName" := by decide

namespace Sample

end Sample

end QueryModel
