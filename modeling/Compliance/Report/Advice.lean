/-
**Advice on issues.**

Each category of issues has a paragraph that explains it and says what to do.

Main definition:

* `Category.advice` — the paragraph of a category.
-/

import Compliance.Category

set_option relaxedAutoImplicit false
set_option autoImplicit false

namespace Compliance

/-- What to do about the issues of a category. -/
def Category.advice : Category → String
  | badLicenses =>
    "Fix bad licenses: At least one license in the LICENSES directory and/or provided by " ++
    "'SPDX-License-Identifier' tags is invalid. They are either not valid SPDX License " ++
    "Identifiers or do not start with 'LicenseRef-'. FAQ about custom licenses: " ++
    "https://reuse.software/faq/#custom-license"
  | deprecatedLicenses =>
    "Fix deprecated licenses: At least one of the licenses in the LICENSES directory and/or " ++
    "provided by an 'SPDX-License-Identifier' tag has been deprecated by SPDX. The current " ++
    "list and their respective recommended new identifiers can be found here: " ++
    "<https://spdx.org/licenses/#deprecated>"
  | licensesWithoutExtension =>
    "Fix licenses without file extension: At least one license text file in the 'LICENSES' " ++
    "directory does not have a '.txt' file extension. Please rename the file(s) accordingly."
  | missingLicenses =>
    "Fix missing licenses: For at least one of the license identifiers provided by the " ++
    "'SPDX-License-Identifier' tags, there is no corresponding license text file in the " ++
    "'LICENSES' directory. For SPDX license identifiers, you can download the license text " ++
    "from the SPDX license list. For custom licenses (starting with 'LicenseRef-'), you " ++
    "need to add these files yourself."
  | unusedLicenses =>
    "Fix unused licenses: At least one of the license text files in 'LICENSES' is not " ++
    "referenced by any file, e.g. by an 'SPDX-License-Identifier' tag. Please make sure that " ++
    "you either tag the accordingly licensed files properly, or delete the unused license " ++
    "text if you are sure that no file or code snippet is licensed as such."
  | readErrors =>
    "Fix read errors: At least one of the files in your directory cannot be read by the " ++
    "tool. Please check the file permissions. You will find the affected files in the " ++
    "READ ERRORS section of this report."
  | missingCopyrightOrLicensing =>
    "Fix missing copyright/licensing information: For one or more files, the tool cannot " ++
    "find copyright and/or licensing information. You typically do this by adding " ++
    "'SPDX-FileCopyrightText' and 'SPDX-License-Identifier' tags to each file. The " ++
    "tutorial explains additional ways to do this: <https://reuse.software/tutorial/>"

end Compliance
