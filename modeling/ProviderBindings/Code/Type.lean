import ProviderBindings.SupportCrate

/-!
Types of the generated code, Rust: the primitives and containers that bindings use, records by name, and
items of the support crate.
-/

namespace ProviderBindings.Code

inductive Ty where
  | unit
  | bool
  | float
  | string
  | str
  | staticStr
  | bytes
  | vec (item : Ty)
  | map (value : Ty)
  | option (item : Ty)
  | result (ok error : Ty)
  | ref (target : Ty)
  | refMut (target : Ty)
  | implInto (target : Ty)
  | named (qualifier : Option String) (name : String)
  | support (item : SupportItem) (args : List Ty)
  | self
  deriving Repr, Inhabited

namespace Ty

def isOption : Ty → Bool
  | .option _ => true
  | _ => false

mutual
def text : Ty → String
  | .unit => "()"
  | .bool => "bool"
  | .float => "f64"
  | .string => "String"
  | .str => "&str"
  | .staticStr => "&'static str"
  | .bytes => "&[u8]"
  | .vec item => "Vec<" ++ text item ++ ">"
  | .map value => "std::collections::BTreeMap<String, " ++ text value ++ ">"
  | .option item => "Option<" ++ text item ++ ">"
  | .result ok error => "Result<" ++ text ok ++ ", " ++ text error ++ ">"
  | .ref target => "&" ++ text target
  | .refMut target => "&mut " ++ text target
  | .implInto target => "impl Into<" ++ text target ++ ">"
  | .named (some qualifier) name => qualifier ++ "::" ++ name
  | .named none name => name
  | .support item [] => item.fullPath
  | .support item args => item.fullPath ++ "<" ++ texts args ++ ">"
  | .self => "Self"

def texts : List Ty → String
  | [] => ""
  | [t] => text t
  | t :: rest => text t ++ ", " ++ texts rest
end

end Ty

end ProviderBindings.Code
