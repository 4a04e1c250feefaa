namespace IngestCheck.Mask

/-- Replace from here on, after dropping the rest of an occurrence already replaced. -/
def replaceFrom (word mask : List Char) : Nat → List Char → List Char
  | _, [] => []
  | skip + 1, _ :: rest => replaceFrom word mask skip rest
  | 0, c :: rest =>
    if word.isPrefixOf (c :: rest) then mask ++ replaceFrom word mask (word.length - 1) rest
    else c :: replaceFrom word mask 0 rest

/-- The empty word has no occurrence. -/
def replace (word mask text : List Char) : List Char :=
  if word.isEmpty then text else replaceFrom word mask 0 text

def stars : List Char := ['*', '*', '*']

/-- Mask the secrets one after the other: a later one also meets the stars of the earlier. -/
def all (secrets : List (List Char)) (text : List Char) : List Char :=
  secrets.foldl (fun shown secret ↦ replace secret stars shown) text

end IngestCheck.Mask
