import IngressProxy.Text.Hex
import IngressProxy.Unicode.Property

namespace IngressProxy.Quoted

/-- Characters without a shape of their own: control and format characters, separators other than
the space, and code points that stand for nothing. -/
def hidden : CharSet :=
  .diff (Unicode.categories ["Cc", "Cf", "Cs", "Co", "Cn", "Zl", "Zp", "Zs"]) (.singleton ' ')

/-- Characters that must not stand alone: they change the one before them. -/
def joining : CharSet := Unicode.graphemeExtend

def escape (c : Char) : String :=
  match c with
  | '\x00' => "\\0"
  | '\t' => "\\t"
  | '\r' => "\\r"
  | '\n' => "\\n"
  | '"' => "\\\""
  | '\\' => "\\\\"
  | c =>
    if joining.contains c || hidden.contains c then
      "\\u\x7b" ++ Hex.ofNat c.toNat ++ "\x7d"
    else String.singleton c

def encode (s : String) : String :=
  "\"" ++ String.join (s.toList.map escape) ++ "\""

end IngressProxy.Quoted
