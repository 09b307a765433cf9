import IsolatedSite.Log.Journal
import IsolatedSite.Settings.Basic
import IsolatedSite.Site.Locate

namespace IsolatedSite

namespace Site

def ofSettings (here : Bytes) (s : Settings) : Except Fault Site :=
  (Path.absolute here (Utf8.octets s.server.root)).map fun root =>
    { root := root
      types := MediaTypes.builtIn.overlay s.http.mimeTypes
      serverName := s.http.serverName }

/-- An unknown format is taken for the default one. -/
def lineFormat (s : Settings) : LineFormat :=
  (LineFormat.parse s.logging.accessLogFormat).toOption.getD .default

end Site

namespace Journal

/-- An unknown level is taken for information. -/
def initFrom (j : Journal) (s : Settings) : Journal × Except Fault Unit :=
  j.init ((Level.parse s.logging.level).toOption.getD .info) s.logging.accessLogFile
    s.logging.errorLogFile

def startupLines (address : String) (root : Bytes) (s : Settings) : List String :=
  ["Serving http://" ++ address ++ " from " ++ Utf8.lossyText root,
    "Log level: " ++ s.logging.level] ++
  (s.server.workers.map fun n => "Worker threads: " ++ Decimal.text n).toList ++
  (s.logging.accessLogFile.map ("Access log: " ++ ·)).toList ++
  (s.logging.errorLogFile.map ("Error log: " ++ ·)).toList

def serverStarted (j : Journal) (address : String) (root : Bytes) (s : Settings) : Journal :=
  (startupLines address root s).foldl info j

end Journal

end IsolatedSite
