/-!
Small letters. Words with a meaning and the names of settings may be written in any case; of all
letters only those of ASCII have two cases here.
-/

namespace NameOwners.Text

def lowerCase (s : String) : String :=
  String.ofList (s.toList.map Char.toLower)

theorem toList_lowerCase (s : String) : (lowerCase s).toList = s.toList.map Char.toLower := by
  simp [lowerCase]

end NameOwners.Text
