import Ilogtail.Go.Bytes
import Ilogtail.Go.Time
import Ilogtail.Syslogparser.Package
import Ilogtail.Syslogparser.Rfc3164.Parser
import Ilogtail.Syslogparser.Reference
import Ilogtail.Syslogparser.Rfc3164.Steps
import Ilogtail.Syslogparser.Rfc3164.Tag
import Ilogtail.Syslogparser.Rfc3164.Cursor
import Ilogtail.Syslogparser.Rfc3164.Safety
import Ilogtail.Syslogparser.Rfc3164.Message
import Ilogtail.Syslogparser.Rfc3164.Line
import Ilogtail.Syslogparser.Rfc3164.FieldShift
import Ilogtail.Syslogparser.Rfc3164.Calls
import Ilogtail.Pluginmanager.MetricExport
import Ilogtail.Cpp.Filesystem
import Ilogtail.Config.ConfigProvider
