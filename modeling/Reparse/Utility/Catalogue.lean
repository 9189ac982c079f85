import Reparse.Utility.Awk.Start
import Reparse.Utility.Compare
import Reparse.Utility.Digest
import Reparse.Utility.Dump
import Reparse.Utility.Edit
import Reparse.Utility.Files
import Reparse.Utility.Find
import Reparse.Utility.Grep
import Reparse.Utility.Pieces
import Reparse.Utility.Words

namespace Reparse

namespace Utility

def ending (status : Nat) : Call → Job Nat := fun _ => return status

def catalogue : List (String × (Call → Job Nat)) :=
  [("[", bracket), ("awk", awk), ("base32", Dump.letterProgram Dump.base32Alphabet),
    ("base64", Dump.letterProgram Dump.base64Alphabet), ("basename", basename), ("cat", cat),
    ("chmod", Files.chmod), ("cksum", Digest.cksum), ("cmp", Compare.cmp), ("comm", comm),
    ("cp", Files.cp), ("cut", cut), ("dd", Pieces.dd), ("diff", Compare.diff),
    ("dirname", dirname), ("echo", echo), ("egrep", egrep), ("expand", Pieces.expand),
    ("expr", expr), ("factor", factor), ("false", ending 1), ("fgrep", fgrep), ("find", Find.find),
    ("fold", fold), ("grep", grep), ("head", head), ("id", idOf), ("ln", Files.ln),
    ("ls", Files.ls), ("mawk", awk), ("md5sum", Digest.program Digest.md5), ("mkdir", Files.mkdir),
    ("mktemp", Files.mktemp), ("mv", Files.mv), ("nl", nl), ("od", Dump.od), ("paste", paste),
    ("printenv", printenv), ("printf", printf), ("pwd", pwd), ("readlink", Files.readlink),
    ("realpath", Files.realpath), ("rev", rev), ("rm", Files.rm), ("rmdir", Files.rmdir),
    ("sed", sed), ("seq", seq), ("sha1sum", Digest.program Digest.sha1),
    ("sha224sum", Digest.program Digest.sha224), ("sha256sum", Digest.program Digest.sha256),
    ("sleep", sleep), ("sort", sort), ("split", Pieces.split), ("stat", Pieces.stat),
    ("sum", Digest.sum), ("tac", tac), ("tail", tail), ("tee", tee), ("test", test),
    ("touch", Files.touch), ("tr", tr), ("true", ending 0), ("truncate", Files.truncate),
    ("tty", tty), ("uname", uname), ("unexpand", Pieces.unexpand), ("uniq", uniq),
    ("unlink", Files.unlink), ("wc", wc), ("whoami", whoami), ("yes", yes)]

def find? (name : String) : Option (Call → Job Nat) :=
  catalogue.lookup name

end Utility

end Reparse
