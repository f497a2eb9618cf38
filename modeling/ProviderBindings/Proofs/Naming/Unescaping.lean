import ProviderBindings.Proofs.Naming.SnakeForm

/-!
Escaping undone. What is added to a name, so that it is neither a keyword nor a reserved module, can be told
from the name itself, and two names are one member, one module or one file exactly when their `snake_case` forms
are one.
-/

namespace ProviderBindings.Naming

def unescaped (identifier : String) : String :=
  let stem := fileStem identifier
  if stem.toList.getLast? = some '_' then String.ofList stem.toList.dropLast else stem

theorem unescaped_underscored (name : String) : unescaped (snakeCase name ++ "_") = snakeCase name := by
  have hstem : fileStem (snakeCase name ++ "_") = snakeCase name ++ "_" :=
    fileStem_eq_self (by simp [mark_not_mem_snakeCase name])
  simp [unescaped, hstem]

theorem unescaped_of_stem {identifier name : String} (h : fileStem identifier = snakeCase name)
    (hname : snakeCase name ≠ "_") : unescaped identifier = snakeCase name := by
  have hlast := ((snakeCase_cases name).resolve_left hname).getLast?_ne
  rw [unescaped, h]
  exact if_neg hlast

theorem unescaped_escape (name : String) : unescaped (escape (snakeCase name)) = snakeCase name := by
  rw [escape]
  split
  · exact unescaped_underscored name
  · rename_i hraw
    have hname : snakeCase name ≠ "_" := by
      intro h
      rw [h] at hraw
      exact hraw (by decide)
    split
    · exact unescaped_of_stem (fileStem_raw _) hname
    · exact unescaped_of_stem (fileStem_eq_self (mark_not_mem_snakeCase name)) hname

theorem unescaped_memberName (name : String) : unescaped (memberName name) = snakeCase name :=
  unescaped_escape name

theorem unescaped_moduleName (name : String) : unescaped (moduleName name) = snakeCase name := by
  rw [moduleName]
  split
  · exact unescaped_underscored name
  · exact unescaped_escape name

theorem unescaped_fileStem_moduleName (name : String) :
    unescaped (fileStem (moduleName name)) = snakeCase name := by
  have hstem : fileStem (fileStem (moduleName name)) = fileStem (moduleName name) := by
    refine fileStem_eq_self ?_
    rcases fileStem_moduleName_cases name with h | h <;> rw [h]
    · exact mark_not_mem_snakeCase name
    · simp [mark_not_mem_snakeCase name]
  rw [← unescaped_moduleName name, unescaped, unescaped, hstem]

theorem names_eq_iff (a b : String) :
    (memberName a = memberName b ↔ snakeCase a = snakeCase b) ∧
      (moduleName a = moduleName b ↔ snakeCase a = snakeCase b) ∧
      (fileStem (moduleName a) = fileStem (moduleName b) ↔ snakeCase a = snakeCase b) := by
  refine ⟨⟨fun h => ?_, fun h => by rw [memberName, memberName, h]⟩,
    ⟨fun h => ?_, fun h => by rw [moduleName, moduleName, h]⟩,
    ⟨fun h => ?_, fun h => by rw [moduleName, moduleName, h]⟩⟩
  · simpa only [unescaped_memberName] using congrArg unescaped h
  · simpa only [unescaped_moduleName] using congrArg unescaped h
  · simpa only [unescaped_fileStem_moduleName] using congrArg unescaped h

end ProviderBindings.Naming
