namespace IngestCheck.ShellWord

def special : List Char := "\n'|&;<>()$\x60\\\" \t*?[#~=%".toList

def isBare (word : List Char) : Bool := word.all fun c ↦ !special.contains c

/-- The inside of a quoted word. A quote closes the word, stands escaped, and opens it again. -/
def escape (word : List Char) : List Char :=
  word.flatMap fun c ↦ if c = '\'' then ['\'', '\\', '\'', '\''] else [c]

def quote (word : List Char) : List Char :=
  if word.isEmpty || !isBare word then '\'' :: escape word ++ ['\''] else word

def join (words : List (List Char)) : List Char :=
  List.intercalate [' '] (words.map quote)

end IngestCheck.ShellWord
