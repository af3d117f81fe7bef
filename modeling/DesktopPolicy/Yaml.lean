-- Documents in YAML, version 1.1: texts that stand for values.
import DesktopPolicy.Text.Breaks
import DesktopPolicy.Yaml.Build

namespace DesktopPolicy.Yaml

/-- The value of a document. A document that refers to a collection from within has no end. -/
structure Document where
  root : Value
  endless : Bool := false

def isTextChar (c : Char) : Bool :=
  let n := c.toNat
  n == 9 || n == 10 || n == 13 || (32 ≤ n && n ≤ 126) || n == 0x85 || (0xA0 ≤ n && n ≤ 0xD7FF) ||
    (0xE000 ≤ n && n ≤ 0xFFFD) || 0x10000 ≤ n

/-- The document of a text, with the items of sets put in order. An empty text is null. -/
def read (order : List Value → List Value) (text : String) : Except Fault Document :=
  let cs := Text.uniformBreaks text.toList
  match cs.find? fun c => !isTextChar c with
  | some c => .error (.unprintable c)
  | none => do
    match ← Node.ofTokens (Tokens.ofText cs) with
    | none => .ok ⟨.null, false⟩
    | some node =>
      let root ← (build order (node.depth + 1) node).mapError BuildFault.fault
      .ok ⟨root, node.hasLoop⟩

end DesktopPolicy.Yaml
