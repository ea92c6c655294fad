import CodePad.Document.Basic

/-!
The document of a text and its tokens: each token makes a run of its kind, and the text
between two tokens a run without one.
-/

namespace CodePad

namespace Document

/-- The runs of a text from the byte `index` on, given the tokens from there on. -/
def runsFrom (text : Text) (index : Nat) : List Token → List Run
  | [] => if index < text.byteLength then [⟨none, text.dropBytes index⟩] else []
  | t :: ts =>
    let rest := ⟨some t.kind, t.text⟩ :: runsFrom text t.stop ts
    if index < t.start then ⟨none, text.slice index t.start⟩ :: rest else rest

def ofTokens (text : Text) (tokens : List Token) : Document := ⟨runsFrom text 0 tokens⟩

end Document

end CodePad
