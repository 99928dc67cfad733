import Sqlite3pp.Basic
import Sqlite3pp.Database
import Sqlite3pp.DatabaseLemmas
import Sqlite3pp.Ownership
import Sqlite3pp.Hooks
import Sqlite3pp.Statement
import Sqlite3pp.StatementLemmas
import Sqlite3pp.Transaction
import Sqlite3pp.Attach
import Sqlite3pp.Handles
import Sqlite3pp.HandlesLemmas
import Sqlite3pp.StringView
import Sqlite3pp.Batch
import Sqlite3pp.BatchLemmas
import Sqlite3pp.BatchHandles
import Sqlite3pp.Columns
import Sqlite3pp.Select
import Sqlite3pp.BindStream
import Sqlite3pp.PrepareTail
import Sqlite3pp.BatchCursor
import Sqlite3pp.SqlStr
